import Cutscene.Proofs.Json.RoundTrip
/-!
# Numbers that were written

A written whole number of at most 64 bits spells itself (`spells_nat`).  Reading a floating-point
number loses a little of some of them, so of these it has to be known that what is read is the
number again (`ReadsBack`); then their text is a number that ends where the text does
(`ReadsBack.written`).
-/

namespace Cutscene.Json

/-! ## Whole numbers -/

/-- No whole number but zero begins with a zero. -/
theorem toDigits_zero_cons {n : Nat} {cs : List Char} (h : Nat.toDigits 10 n = '0' :: cs) :
    cs = [] := by
  induction n using Nat.strongRecOn generalizing cs with
  | _ n ih =>
      rw [Nat.toDigits_eq_if (by decide)] at h
      split at h
      · exact (List.cons.inj h).2.symm
      · rename_i hlarge
        have hsome : Nat.toDigits 10 (n / 10) ≠ [] := Nat.toDigits_ne_nil
        obtain ⟨c, front, hfront⟩ := List.exists_cons_of_ne_nil hsome
        rw [hfront, List.cons_append] at h
        obtain ⟨rfl, _⟩ := List.cons.inj h
        obtain rfl := ih (n / 10) (by omega) hfront
        -- in front of the last digit stands a zero alone, where there should be none
        have hvalue : Nat.ofDigitChars 10 (Nat.toDigits 10 (n / 10)) 0 = 0 := by
          rw [hfront]
          rfl
        rw [Nat.ofDigitChars_toDigits (by decide) (by decide)] at hvalue
        omega

theorem le_ofDigitChars (cs : List Char) (n : Nat) : n ≤ Nat.ofDigitChars 10 cs n := by
  induction cs generalizing n with
  | nil => exact Nat.le_refl n
  | cons c cs ih =>
      have hmore := ih (10 * n + (c.toNat - '0'.toNat))
      rw [Nat.ofDigitChars_cons]
      omega

theorem digitRun_digits {cs : List Char} (h : ∀ c ∈ cs, c.isDigit = true) :
    digitRun cs = (cs, []) := by
  induction cs with
  | nil => rfl
  | cons c cs ih =>
      obtain ⟨hc, hcs⟩ := List.forall_mem_cons.1 h
      rw [digitRun_cons_digit hc, ih hcs]

namespace Numeral

theorem gather_of_lt {cs : List Char} {n : Nat} (h : Nat.ofDigitChars 10 cs n < UInt64.size) :
    gather n cs = (Nat.ofDigitChars 10 cs n, []) := by
  induction cs generalizing n with
  | nil => rfl
  | cons c cs ih =>
      rw [Nat.ofDigitChars_cons, Nat.mul_comm] at h ⊢
      have hfits : n * 10 + digitValue c < UInt64.size :=
        Nat.lt_of_le_of_lt (le_ofDigitChars cs _) h
      rw [gather, if_pos hfits]
      exact ih h

theorem scan_toDigits (n : Nat) :
    scan false (Nat.toDigits 10 n) = .ok (⟨false, Nat.toDigits 10 n, none, none⟩, []) := by
  have hdigits : ∀ c ∈ Nat.toDigits 10 n, c.isDigit = true := fun c hc =>
    Nat.isDigit_of_mem_toDigits (by decide) (by decide) hc
  have hwhole : scanWhole (Nat.toDigits 10 n) = .ok (Nat.toDigits 10 n, []) := by
    by_cases hzero : (Nat.toDigits 10 n).head? = some '0'
    · obtain ⟨more, hmore⟩ := List.head?_eq_some_iff.1 hzero
      obtain rfl := toDigits_zero_cons hmore
      rw [hmore]
      rfl
    · rw [scanWhole_other hzero, digitRun_digits hdigits]
      exact ⟨Nat.toDigits_ne_nil, rfl, rfl⟩
  rw [scan, hwhole]
  rfl

end Numeral

theorem spells_nat {n : Nat} (h : n < UInt64.size) : Spells (toString n).toList (.int n) := by
  have hdigits : ∀ c ∈ Nat.toDigits 10 n, c.isDigit = true := fun c hc =>
    Nat.isDigit_of_mem_toDigits (by decide) (by decide) hc
  have hvalue : Nat.ofDigitChars 10 (Nat.toDigits 10 n) 0 = n :=
    Nat.ofDigitChars_toDigits (by decide) (by decide)
  have hgather := Numeral.gather_of_lt (show Nat.ofDigitChars 10 (Nat.toDigits 10 n) 0 < _ from
    hvalue.symm ▸ h)
  have hchars : (toString n).toList = Nat.toDigits 10 n := Nat.toList_repr
  obtain ⟨c, cs, hcons⟩ := List.exists_cons_of_ne_nil (Nat.toDigits_ne_nil (n := n) (b := 10))
  refine ⟨?_, fun c hc => isSpace_of_isDigit (hdigits c (hchars ▸ hc))⟩
  have hscan : Tree.scanNumber false (Nat.toDigits 10 n) = (.number (.ok (.int n)), []) := by
    rw [Tree.scanNumber, Numeral.scan_toDigits]
    simp only [Numeral.value, hgather, hvalue]
    rfl
  rw [hchars, Tree.scan, Tree.scanFuel, hcons]
  rw [hcons] at hdigits hscan
  rw [Tree.scanValue_digit (hdigits c List.mem_cons_self), hscan]

/-! ## Floating-point numbers -/

theorem tight_append {xs ys : List Char} : Tight (xs ++ ys) ↔ Tight xs ∧ Tight ys :=
  List.forall_mem_append

theorem tight_cons {c : Char} {cs : List Char} : Tight (c :: cs) ↔ isSpace c = false ∧ Tight cs :=
  List.forall_mem_cons

theorem tight_of_digits {cs : List Char} (h : ∀ c ∈ cs, c.isDigit = true) : Tight cs :=
  fun c hc => isSpace_of_isDigit (h c hc)

/-- A text that begins with a digit and has no space. -/
structure Numeric (cs : List Char) : Prop where
  head : ∃ c more, cs = c :: more ∧ c.isDigit = true
  tight : Tight cs

theorem numeric_append {digits cs : List Char} (hsome : digits ≠ [])
    (hdigits : ∀ c ∈ digits, c.isDigit = true) (hcs : Tight cs) : Numeric (digits ++ cs) where
  head := by
    obtain ⟨c, more, rfl⟩ := List.exists_cons_of_ne_nil hsome
    exact ⟨c, more ++ cs, rfl, hdigits c List.mem_cons_self⟩
  tight := tight_append.2 ⟨tight_of_digits hdigits, hcs⟩

theorem isDigit_zeros (n : Nat) : ∀ c ∈ List.replicate n '0', c.isDigit = true := by
  intro c hc
  rw [List.eq_of_mem_replicate hc]
  rfl

theorem digitsOf_ne_nil (n : Nat) : Decimal.digitsOf n ≠ [] :=
  Nat.toDigits_ne_nil

theorem isDigit_digitsOf (n : Nat) : ∀ c ∈ Decimal.digitsOf n, c.isDigit = true :=
  fun _ hc => Nat.isDigit_of_mem_toDigits (by decide) (by decide) hc

theorem numeric_positional (x : Decimal.Scaled) (keepsPoint : Bool) :
    Numeric (x.positional keepsPoint).toList := by
  unfold Decimal.Scaled.positional
  dsimp only
  split
  · have hpoint : Tight (if keepsPoint then ['.', '0'] else []) := by
      cases keepsPoint <;> decide
    rw [String.toList_ofList, List.append_assoc]
    exact numeric_append (digitsOf_ne_nil _) (isDigit_digitsOf _)
      (tight_append.2 ⟨tight_of_digits (isDigit_zeros _), hpoint⟩)
  · generalize (-x.scale).toNat = places
    generalize hpadded :
      List.replicate (places + 1 - (Decimal.digitsOf x.coefficient).length) '0' ++
        Decimal.digitsOf x.coefficient = padded
    have hdigits : ∀ c ∈ padded, c.isDigit = true := by
      rw [← hpadded]
      exact List.forall_mem_append.2 ⟨isDigit_zeros _, isDigit_digitsOf _⟩
    have hlong : places < padded.length := by
      rw [← hpadded, List.length_append, List.length_replicate]
      omega
    have hsome : padded.take (padded.length - places) ≠ [] := by
      rw [ne_eq, List.take_eq_nil_iff]
      rintro (hshort | rfl)
      · omega
      · simp at hlong
    have hfraction : Tight (padded.drop (padded.length - places)) :=
      tight_of_digits fun c hc => hdigits c (List.mem_of_mem_drop hc)
    rw [String.toList_ofList]
    exact numeric_append hsome (fun c hc => hdigits c (List.mem_of_mem_take hc))
      (tight_cons.2 ⟨rfl, hfraction⟩)

theorem numeric_exponential (x : Decimal.Scaled) (signsExponent : Bool) :
    Numeric (x.exponential signsExponent).toList := by
  unfold Decimal.Scaled.exponential
  dsimp only
  generalize x.scale + _ = power
  have hsome : (Decimal.digitsOf x.coefficient).take 1 ≠ [] := by
    rw [ne_eq, List.take_eq_nil_iff]
    exact not_or.2 ⟨Nat.one_ne_zero, digitsOf_ne_nil _⟩
  have hfraction : Tight ((Decimal.digitsOf x.coefficient).drop 1) :=
    tight_of_digits fun c hc => isDigit_digitsOf _ c (List.mem_of_mem_drop hc)
  have hpoint : Tight (if ((Decimal.digitsOf x.coefficient).drop 1).isEmpty then []
      else '.' :: (Decimal.digitsOf x.coefficient).drop 1) := by
    split
    · exact List.forall_mem_nil _
    · exact tight_cons.2 ⟨rfl, hfraction⟩
  have hsign : Tight (if power < 0 then ['-'] else if signsExponent then ['+'] else []) := by
    split
    · decide
    · cases signsExponent <;> decide
  have hpower : Tight (Decimal.digitsOf power.natAbs) := tight_of_digits (isDigit_digitsOf _)
  have hscale : Tight ('e' :: (if power < 0 then ['-'] else if signsExponent then ['+'] else []) ++
      Decimal.digitsOf power.natAbs) := tight_append.2 ⟨tight_cons.2 ⟨rfl, hsign⟩, hpower⟩
  rw [String.toList_ofList, List.append_assoc, List.append_assoc]
  exact numeric_append hsome (fun c hc => isDigit_digitsOf _ c (List.mem_of_mem_take hc))
    (tight_append.2 ⟨hpoint, hscale⟩)

theorem numeric_magnitude (l : Decimal.Layout) (x : Decimal.Scaled) :
    Numeric (l.magnitude x).toList := by
  unfold Decimal.Layout.magnitude
  dsimp only
  split
  · exact numeric_positional x l.keepsPoint
  · split
    · exact numeric_positional x l.keepsPoint
    · exact numeric_exponential x l.signsExponent

theorem scalar_eq_ok {α : Type} {get : Found → Except Cause α} {t : Tree} {x : α} :
    t.scalar get = .ok x ↔ ∃ found, t.found = .ok found ∧ get found = .ok x := by
  unfold Tree.scalar
  cases t.found with
  | error fault => simp
  | ok found => simp [mapError_eq_ok]

theorem skipSpace_tight {cs : List Char} (h : Tight cs) : skipSpace cs = cs := by
  cases cs with
  | nil => rfl
  | cons c cs => exact skipSpace_cons (tight_cons.1 h).1 cs

/-- A text without space from which a number is read is a number and nothing else. -/
theorem spells_of_scanNumber {α : Type} {get : Found → Except Cause α} {cs body : List Char}
    {negative : Bool} {x : α} (hscan : Tree.scan cs = Tree.scanNumber negative body)
    (hcs : Tight cs) (hbody : Tight body)
    (h : decodeText (Tree.scalar get) (String.ofList cs) = .ok x) :
    ∃ n, Spells cs n ∧ get (.number n) = .ok x := by
  rw [decodeText_eq_ok, String.toList_ofList, hscan, scalar_eq_ok] at h
  obtain ⟨⟨found, hfound, hget⟩, hrest⟩ := h
  cases hnumeral : Numeral.scan negative body with
  | error faults =>
      rw [Tree.scanNumber, hnumeral] at hfound
      cases hfound
  | ok r =>
      obtain ⟨numeral, left⟩ := r
      have hnumber : Tree.scanNumber negative body = (.number (numeral.value left), left) := by
        rw [Tree.scanNumber, hnumeral]
      obtain ⟨xs, hxs, _⟩ := Numeral.scan_cut hnumeral
      have hleft : Tight left := fun c hc => hbody c (hxs ▸ List.mem_append_right xs hc)
      rw [hnumber] at hfound hrest hscan
      rw [skipSpace_tight hleft] at hrest
      cases hvalue : numeral.value left with
      | error fault =>
          rw [hvalue] at hfound
          cases hfound
      | ok n =>
          rw [hvalue] at hfound hscan
          cases hfound
          exact ⟨n, ⟨by rw [hscan, hrest], hcs⟩, hget⟩

theorem not_decodeText_of_found {α : Type} {get : Found → Except Cause α} {cs : List Char}
    {fault : Fault} {x : α} (hfound : (Tree.scan cs).1.found = .error fault) :
    decodeText (Tree.scalar get) (String.ofList cs) ≠ .ok x := by
  rw [ne_eq, decodeText_eq_ok, String.toList_ofList, scalar_eq_ok]
  rintro ⟨⟨found, hok, _⟩, _⟩
  simp [hfound] at hok

theorem spells_of_parts {α : Type} {get : Found → Except Cause α} {l : Decimal.Layout}
    {parts : Decimal.Parts} {x : α} (hnan : l.nan = "NaN") (hinfinity : l.infinity = "inf")
    (h : decodeText (Tree.scalar get) (String.ofList (l.parts parts).toList) = .ok x) :
    ∃ n, Spells (l.parts parts).toList n ∧ get (.number n) = .ok x := by
  cases parts with
  | nan =>
      have hchars : (l.parts .nan).toList = ['N', 'a', 'N'] := by
        rw [Decimal.Layout.parts, hnan]
        rfl
      rw [hchars] at h
      exact absurd h (not_decodeText_of_found rfl)
  | infinite negative =>
      have hchars : (l.parts (.infinite negative)).toList =
          (if negative then ['-'] else []) ++ ['i', 'n', 'f'] := by
        rw [Decimal.Layout.parts, hinfinity]
        cases negative <;> rfl
      rw [hchars] at h
      cases negative <;> exact absurd h (not_decodeText_of_found rfl)
  | finite negative mantissa exponent narrowBelow =>
      have hchars : (l.parts (.finite negative mantissa exponent narrowBelow)).toList =
          (if negative then ['-'] else []) ++
            (l.magnitude (Decimal.shortest l.tie mantissa exponent narrowBelow)).toList := by
        cases negative <;> simp [Decimal.Layout.parts]
      rw [hchars] at h ⊢
      generalize Decimal.shortest _ _ _ _ = shortest at h ⊢
      obtain ⟨⟨c, more, hhead, hdigit⟩, htight⟩ := numeric_magnitude l shortest
      cases negative with
      | false =>
          have hscan : Tree.scan (l.magnitude shortest).toList =
              Tree.scanNumber false (l.magnitude shortest).toList := by
            rw [hhead, Tree.scan, Tree.scanFuel, Tree.scanValue_digit hdigit]
          exact spells_of_scanNumber hscan htight htight h
      | true =>
          have hscan : Tree.scan ('-' :: (l.magnitude shortest).toList) =
              Tree.scanNumber true (l.magnitude shortest).toList := by
            rw [Tree.scan, Tree.scanFuel, Tree.scanValue_minus]
          exact spells_of_scanNumber hscan (tight_cons.2 ⟨rfl, htight⟩) htight h

/-- What is known of a number whose text is read as the number. -/
theorem written_of_decodeText {α : Type} {get : Found → Except Cause α} {l : Decimal.Layout}
    {parts : Decimal.Parts} {finite : Bool} {x : α} (hnan : l.nan = "NaN")
    (hinfinity : l.infinity = "inf") (hnull : get .null ≠ .ok x)
    (h : decodeText (Tree.scalar get)
      (Doc.compact (if finite then .number (l.parts parts) else .null)) = .ok x) :
    ∃ n, get (.number n) = .ok x ∧
      (if finite then Doc.number (l.parts parts) else .null).tree = .number (.ok n) ∧
      ∀ room, (if finite then Doc.number (l.parts parts) else .null).Fits room := by
  cases finite with
  | true =>
      obtain ⟨n, hspells, hget⟩ := spells_of_parts hnan hinfinity h
      refine ⟨n, hget, ?_, fun room => .number hspells⟩
      rw [if_pos rfl, Doc.tree, hspells.scan_eq]
  | false =>
      have hscan : (Tree.scan Doc.null.compact.toList).1.found = .ok .null := by rfl
      rw [if_neg Bool.false_ne_true, decodeText_eq_ok, scalar_eq_ok, hscan] at h
      obtain ⟨⟨found, hfound, hget⟩, _⟩ := h
      cases hfound
      exact absurd hget hnull

/-- The text that is written for a number is read as the number. -/
def ReadsBack (x : Float) : Prop :=
  decodeText (Tree.scalar Found.getFloat) (Doc.float x).compact = .ok x

@[inherit_doc ReadsBack]
def ReadsBack32 (x : Float32) : Prop :=
  decodeText (Tree.scalar Found.getFloat32) (Doc.float32 x).compact = .ok x

theorem ReadsBack.written {x : Float} (h : ReadsBack x) :
    ∃ n, Found.getFloat (.number n) = .ok x ∧ (Doc.float x).tree = .number (.ok n) ∧
      ∀ room, (Doc.float x).Fits room :=
  written_of_decodeText (l := floatLayout) rfl rfl (by simp [Found.getFloat]) h

theorem ReadsBack32.written {x : Float32} (h : ReadsBack32 x) :
    ∃ n, Found.getFloat32 (.number n) = .ok x ∧ (Doc.float32 x).tree = .number (.ok n) ∧
      ∀ room, (Doc.float32 x).Fits room :=
  written_of_decodeText (l := float32Layout) rfl rfl (by simp [Found.getFloat32]) h

example : ReadsBack (-0.0) := by unfold ReadsBack; rfl

end Cutscene.Json
