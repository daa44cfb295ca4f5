/-!
# Paths

A path is a text whose parts stand between slashes. It begins at the top folder if a slash stands in
front of it, and at the working folder otherwise. An empty part and the part `.` stay in the folder
where they are met, `..` leads back, and every other part is a name.

What a path says by its text alone is here; where it leads to is a matter of the disk. The parts
keep all of a path (`joinParts_splitParts`).
-/

namespace Cutscene.Disk.Path

/-- The parts of a text between its slashes. -/
def splitParts : List Char → List (List Char)
  | [] => [[]]
  | c :: rest =>
    if c = '/' then [] :: splitParts rest
    else
      match splitParts rest with
      | [] => [[c]]
      | part :: parts => (c :: part) :: parts

/-- Parts with slashes between them. -/
def joinParts : List (List Char) → List Char
  | [] => []
  | [part] => part
  | part :: parts => part ++ '/' :: joinParts parts

theorem splitParts_ne_nil (cs : List Char) : splitParts cs ≠ [] := by
  cases cs with
  | nil => simp [splitParts]
  | cons c rest =>
    rw [splitParts]
    split
    · simp
    · split <;> simp

@[simp] theorem joinParts_splitParts (cs : List Char) : joinParts (splitParts cs) = cs := by
  induction cs with
  | nil => rfl
  | cons c rest ih =>
    obtain ⟨part, parts, h⟩ := List.exists_cons_of_ne_nil (splitParts_ne_nil rest)
    rw [h] at ih
    by_cases hc : c = '/'
    · simp [splitParts, hc, h, joinParts, ih]
    · cases parts with
      | nil => simp_all [splitParts, joinParts]
      | cons next parts => simp_all [splitParts, joinParts]

/-- The parts of a path. -/
def parts (path : String) : List String :=
  (splitParts path.toList).map String.ofList

/-- The path with these parts. -/
def ofParts (parts : List String) : String :=
  String.ofList (joinParts (parts.map String.toList))

@[simp] theorem ofParts_parts (path : String) : ofParts (parts path) = path := by
  simp [ofParts, parts, Function.comp_def]

/-- Whether a path begins at the top folder. -/
def isFromTop (path : String) : Bool :=
  path.toList.head? == some '/'

/-- Whether a slash stands behind a path. -/
def endsInSlash (path : String) : Bool :=
  path.toList.getLast? == some '/'

/-- The longest path in bytes. -/
def limit : Nat := 4095

/-- The longest name in bytes. -/
def nameLimit : Nat := 255

/-- Whether a text has a null character, which no path has. -/
def hasNull (s : String) : Bool :=
  s.toList.contains '\x00'

/-- A path below a folder; a path from the top replaces it. -/
def join (folder path : String) : String :=
  if isFromTop path ∨ folder = "" then path
  else if endsInSlash folder then folder ++ path
  else folder ++ "/" ++ path

/-- Drops the parts at the end of a path that stay in their folder, unless such a part begins the
path. The parts come with their indices and in reverse order. -/
def dropIdle (parts : List (String × Nat)) : List (String × Nat) :=
  parts.dropWhile fun (part, i) => part == "" || part == "." && i != 0

/-- The path of the folder that a path lies in: the path without its last part that counts. It is
empty for a path of one part. -/
def parent (path : String) : String :=
  let above := dropIdle (dropIdle (parts path).zipIdx.reverse).tail
  if above.isEmpty && isFromTop path then "/"
  else ofParts (above.reverse.map (·.1))

/-- The parts of a path in front of its last one, where slashes at the end do not count. -/
def outerParts (path : String) : List String :=
  ((parts path).reverse.dropWhile (· == "")).tail.reverse

/-- The paths that lead to a path, each one part longer than the one before it, and the path itself
as the last one. -/
def stages (path : String) : List String :=
  let parts := parts path
  (List.range parts.length).map fun n => ofParts (parts.take (n + 1))

example : parent "a/./b//c/." = "a/./b" := by decide +kernel
example : parent "./a" = "." := by decide +kernel
example : parent "a/" = "" := by decide +kernel

end Cutscene.Disk.Path
