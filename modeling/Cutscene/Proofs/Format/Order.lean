import Cutscene.Proofs.Format.Script
import Cutscene.Proofs.Json.Records
/-!
# The members of an event in any order

The kind of an event may stand anywhere among its members, so all of them are read before any is
looked at.  What counts of a member then is its name and its value (`event_object`): the text of an
event may have its members in another order, under another name of the same field, and with unknown
members among them (`Rewritten`), and is read as the same event.  The same holds of the answers that
a message offers.
-/

namespace Cutscene

open Json

/-- The names of the fields of a choice, those of one field together. -/
def Choice.fieldNames : List (List String) :=
  [["label", "content"], ["flag"]]

/-- The names of the fields of an event of this kind, those of one field together. -/
def EventKind.fieldNames : EventKind → List (List String)
  | message => [["text"], ["direction"], ["requiredFlags"], ["choices"]]
  | walk => [["tileDistance"], ["direction"], ["actorRef"]]
  | addFlag => [["key", "flag"], ["value"]]
  | removeFlag => [["key", "flag"]]
  | transaction => [["amount"]]

namespace Format

/-! ## Fields -/

theorem field_read_eq_ok {ν ε α σ : Type} {names : List String} {read : ν → Except ε α}
    {set : α → σ → σ} {v : ν} {change : σ → σ} :
    (field names read set).read v = .ok change ↔ ∃ x, read v = .ok x ∧ change = set x := by
  simp only [field]
  cases read v with
  | error e => simp [Except.map]
  | ok x => simp [Except.map, eq_comm]

theorem commute_field {ν ε α β σ : Type} {names names' : List String} {read : ν → Except ε α}
    {read' : ν → Except ε β} {set : α → σ → σ} {set' : β → σ → σ}
    (h : ∀ x y s, set x (set' y s) = set' y (set x s)) :
    (field names read set).Commute (field names' read' set') := by
  intro v w change change' hchange hchange' s
  obtain ⟨x, _, rfl⟩ := field_read_eq_ok.1 hchange
  obtain ⟨y, _, rfl⟩ := field_read_eq_ok.1 hchange'
  exact h x y s

theorem follows_choiceRecord :
    (choiceRecord (ε := Cause) bufferedText).Follows Choice.fieldNames where
  known := by simp [choiceRecord, field, Choice.fieldNames]
  same := by
    simp only [Choice.fieldNames, List.forall_mem_cons, List.not_mem_nil, IsEmpty.forall_iff,
      implies_true, and_true, true_and]
    exact ⟨rfl, rfl⟩
  commutes := List.pairwise_pair.2 (commute_field fun _ _ _ => rfl)

theorem follows_messageRecord :
    messageRecord.Follows (["type"] :: EventKind.message.fieldNames) where
  known := by simp [messageRecord, field, EventKind.fieldNames]
  same := by simp [EventKind.fieldNames]
  commutes := by
    simp only [Record.Commutes, messageRecord, List.pairwise_cons, List.forall_mem_cons,
      List.not_mem_nil, IsEmpty.forall_iff, implies_true, and_true, List.Pairwise.nil]
    refine ⟨⟨?_, ?_, ?_⟩, ⟨?_, ?_⟩, ?_⟩ <;> exact commute_field fun _ _ _ => rfl

theorem follows_walkRecord : walkRecord.Follows (["type"] :: EventKind.walk.fieldNames) where
  known := by simp [walkRecord, field, EventKind.fieldNames]
  same := by simp [EventKind.fieldNames]
  commutes := by
    simp only [Record.Commutes, walkRecord, List.pairwise_cons, List.forall_mem_cons,
      List.not_mem_nil, IsEmpty.forall_iff, implies_true, and_true, List.Pairwise.nil]
    refine ⟨⟨?_, ?_⟩, ?_⟩ <;> exact commute_field fun _ _ _ => rfl

theorem follows_addFlagRecord :
    addFlagRecord.Follows (["type"] :: EventKind.addFlag.fieldNames) where
  known := by simp [addFlagRecord, field, EventKind.fieldNames]
  same := by
    simp only [EventKind.fieldNames, List.forall_mem_cons, List.not_mem_nil, IsEmpty.forall_iff,
      implies_true, and_true, true_and]
    exact ⟨rfl, rfl⟩
  commutes := List.pairwise_pair.2 (commute_field fun _ _ _ => rfl)

theorem follows_removeFlagRecord :
    removeFlagRecord.Follows (["type"] :: EventKind.removeFlag.fieldNames) where
  known := by simp [removeFlagRecord, field, EventKind.fieldNames]
  same := by
    simp only [EventKind.fieldNames, List.forall_mem_cons, List.not_mem_nil, IsEmpty.forall_iff,
      implies_true, and_true, true_and]
    exact ⟨rfl, rfl⟩
  commutes := List.pairwise_singleton _ _

theorem follows_transactionRecord :
    transactionRecord.Follows (["type"] :: EventKind.transaction.fieldNames) where
  known := by simp [transactionRecord, field, EventKind.fieldNames]
  same := by simp [EventKind.fieldNames]
  commutes := List.pairwise_singleton _ _

/-! ## Events -/

section

variable {vs vs' : List (String × Value)} {kind : EventKind} {e : Event}

theorem bufferedEvent_of_replaces (h : Replaces (["type"] :: kind.fieldNames) vs vs')
    (he : bufferedEvent kind (.object vs) = .ok e) :
    bufferedEvent kind (.object vs') = .ok e := by
  cases kind with
  | message => exact h.object follows_messageRecord he
  | walk => exact h.object follows_walkRecord he
  | addFlag => exact h.object follows_addFlagRecord he
  | removeFlag => exact h.object follows_removeFlagRecord he
  | transaction => exact h.object follows_transactionRecord he

/-- The fields of an event do not see its tag. -/
theorem bufferedEvent_filter (kind : EventKind) (vs : List (String × Value)) :
    bufferedEvent kind (.object (vs.filter (·.1 ≠ "type"))) = bufferedEvent kind (.object vs) := by
  cases kind <;> simp only [bufferedEvent, Value.record] <;>
    rw [Value.recordMembers_filter rfl]

theorem kind_of_bufferedEvent (he : bufferedEvent kind (.object vs) = .ok e) : e.kind = kind := by
  cases kind with
  | message =>
      obtain ⟨parts, _, hfinish⟩ := Value.record_object_eq_ok.1 he
      obtain ⟨_, _, ⟨⟩⟩ := bind_eq_ok.1 hfinish
      rfl
  | walk =>
      obtain ⟨parts, _, hfinish⟩ := Value.record_object_eq_ok.1 he
      obtain ⟨_, _, hfinish⟩ := bind_eq_ok.1 hfinish
      obtain ⟨_, _, ⟨⟩⟩ := bind_eq_ok.1 hfinish
      rfl
  | addFlag =>
      obtain ⟨parts, _, hfinish⟩ := Value.record_object_eq_ok.1 he
      obtain ⟨_, _, hfinish⟩ := bind_eq_ok.1 hfinish
      obtain ⟨_, _, ⟨⟩⟩ := bind_eq_ok.1 hfinish
      rfl
  | removeFlag =>
      obtain ⟨parts, _, hfinish⟩ := Value.record_object_eq_ok.1 he
      obtain ⟨_, _, ⟨⟩⟩ := bind_eq_ok.1 hfinish
      rfl
  | transaction =>
      obtain ⟨parts, _, hfinish⟩ := Value.record_object_eq_ok.1 he
      obtain ⟨_, _, ⟨⟩⟩ := bind_eq_ok.1 hfinish
      rfl

/-- These are members of the event, its kind among them. -/
structure EventOf (vs : List (String × Value)) (e : Event) : Prop where
  tag : vs.filter (·.1 = "type") = [("type", .text e.kind.name)]
  fields : bufferedEvent e.kind (.object vs) = .ok e

theorem lookUp_eventKinds {name : String} :
    lookUp eventKinds name = .ok kind ↔ name = kind.name := by
  constructor
  · intro h
    unfold lookUp at h
    split at h
    · rename_i value hvalue
      cases h
      obtain ⟨front, back, hsplit, _⟩ := List.lookup_eq_some_iff.1 hvalue
      have hmem : (name, kind) ∈ eventKinds := by simp [hsplit]
      obtain ⟨k, _, hk⟩ := List.mem_map.1 hmem
      cases hk
      rfl
    · cases h
  · rintro rfl
    exact lookUp_kind kind

/-- An object is read as an event when its members are those of the event. -/
theorem event_object {members : List (Except Fault String × Tree)} {stop : Stop}
    (hplain : ∀ m ∈ members, m.2.Plain) : event (.object members stop) = .ok e ↔
      stop = .closed ∧ ∃ vs, Tree.readMembers members = .ok vs ∧ EventOf vs e := by
  rw [event, bind_eq_ok]
  constructor
  · rintro ⟨⟨kind, v⟩, htagged, he⟩
    obtain ⟨rfl, name, vs, hvs, htag, hname, rfl⟩ := (Tree.tagged_object hplain).1 htagged
    rw [mapError_eq_ok, bufferedEvent_filter] at he
    obtain rfl := lookUp_eventKinds.1 hname
    obtain rfl := kind_of_bufferedEvent he
    exact ⟨rfl, vs, hvs, htag, he⟩
  · rintro ⟨rfl, vs, hvs, htag, he⟩
    refine ⟨(e.kind, .object (vs.filter (·.1 ≠ "type"))), (Tree.tagged_object hplain).2
      ⟨rfl, _, vs, hvs, htag, lookUp_eventKinds.2 rfl, rfl⟩, ?_⟩
    rw [mapError_eq_ok, bufferedEvent_filter]
    exact he

theorem scan_object {cs : List Char} (h : (skipSpace cs).head? = some '{') :
    ∃ members stop, (Tree.scan cs).1 = .object members stop ∧ ∀ m ∈ members, m.2.Plain := by
  obtain ⟨more, hmore⟩ := List.head?_eq_some_iff.1 h
  have hskip : skipSpace cs = skipSpace ('{' :: more) := hmore.trans (skipSpace_cons rfl more).symm
  refine ⟨_, (Tree.scanMembers 1 (2 * cs.length + 1) true more).2.1, ?_,
    Tree.plain_scanMembers 1 (2 * cs.length + 1) true more⟩
  rw [Tree.scan, Tree.scanFuel, Tree.scanValue_congr hskip, scanValue_object,
    Tree.bury_of_lt (by decide)]

theorem exists_of_decodeText {s : String} (hobject : (skipSpace s.toList).head? = some '{')
    (h : decodeText event s = .ok e) : ∃ vs, Means 0 s.toList (.object vs) ∧ EventOf vs e := by
  obtain ⟨hevent, hrest⟩ := decodeText_eq_ok.1 h
  obtain ⟨members, stop, htree, hplain⟩ := scan_object hobject
  rw [htree] at hevent
  obtain ⟨rfl, vs, hvs, hof⟩ := (event_object hplain).1 hevent
  refine ⟨vs, ⟨_, ⟨?_, rfl⟩, skipSpace_eq_nil.1 hrest⟩, hof⟩
  exact htree ▸ read_object_eq_ok.2 ⟨vs, rfl, hvs, rfl⟩

theorem decodeText_of_means {s : String} (h : Means 0 s.toList (.object vs)) (hof : EventOf vs e) :
    decodeText event s = .ok e := by
  have hsome : vs ≠ [] := by
    rintro rfl
    cases hof.tag
  have hobject : (skipSpace s.toList).head? = some '{' := by
    obtain ⟨o, hchars, ho⟩ := h.objectText hsome
    rw [hchars]
    exact ho.head
  obtain ⟨members, stop, htree, hplain⟩ := scan_object hobject
  obtain ⟨left, ⟨hread, rfl⟩, hleft⟩ := h
  rw [show (Tree.scanValue 0 (Tree.scanFuel s.toList) s.toList).1 = _ from htree] at hread
  obtain ⟨_, ⟨⟩, hvs, rfl⟩ := read_object_eq_ok.1 hread
  refine decodeText_eq_ok.2 ⟨?_, skipSpace_eq_nil.2 hleft⟩
  rw [htree]
  exact (event_object hplain).2 ⟨rfl, vs, hvs, hof⟩

/-! ## Events written in another way -/

/-- The members of an event of this kind written in another way: those of the event itself, or in a
message those of one of its choices. -/
inductive Rewritten : EventKind → List Member → List Member → Prop where
  | fields {kind : EventKind} {ms ms' : List Member} :
      Rearranged 1 (["type"] :: kind.fieldNames) ms ms' → Rewritten kind ms ms'
  | choice {m : Member} {ms os : List Member} {lead trail : List Char}
      {front back : List (List Char)} {o : ObjectText} {items : List Value}
      {vs : List (String × Value)} :
      m.Named "choices" → m.value = ListText.chars ⟨lead, front ++ o.chars :: back, trail⟩ →
      ListText.Tells 1 ⟨lead, front ++ o.chars :: back, trail⟩ items → o.Tells 2 vs →
      Rearranged 3 Choice.fieldNames o.members os →
      Rewritten .message (m :: ms)
        ({ m with value :=
            ListText.chars ⟨lead, front ++ { o with members := os }.chars :: back, trail⟩ } :: ms)
  | trans {kind : EventKind} {ms ms' ms'' : List Member} : Rewritten kind ms ms' →
      Rewritten kind ms' ms'' → Rewritten kind ms ms''

/-- Choices that are read as the same choices may stand for one another in an event. -/
theorem EventOf.replace_choices {v v' : Value} (h : EventOf (("choices", v) :: vs) e)
    (hkind : e.kind = .message)
    (hv : ∀ xs, Value.listOf bufferedChoice v = .ok xs → Value.listOf bufferedChoice v' = .ok xs) :
    EventOf (("choices", v') :: vs) e := by
  obtain ⟨htag, hfields⟩ := h
  rw [hkind] at hfields
  obtain ⟨parts, hparts, hfinish⟩ := Value.record_object_eq_ok.1 hfields
  obtain ⟨hnew, change, hchange, hrest⟩ := (Value.recordMembers_known rfl).1 hparts
  obtain ⟨xs, hxs, rfl⟩ := field_read_eq_ok.1 hchange
  have hparts' : Value.recordMembers messageRecord [] {} (("choices", v') :: vs) = .ok parts :=
    (Value.recordMembers_known rfl).2 ⟨hnew, _, field_read (hv xs hxs), hrest⟩
  refine ⟨?_, ?_⟩
  · rw [List.filter_cons_of_neg (by simp)] at htag ⊢
    exact htag
  · rw [hkind]
    exact Value.record_object_eq_ok.2 ⟨parts, hparts', hfinish⟩

theorem Rewritten.eventOf {ms ms' : List Member} (h : Rewritten kind ms ms') (hkind : e.kind = kind)
    (hms : List.Forall₂ (Member.Tells 1) ms vs) (he : EventOf vs e) :
    ∃ vs', List.Forall₂ (Member.Tells 1) ms' vs' ∧ EventOf vs' e := by
  induction h generalizing vs with
  | @fields kind ms ms' h =>
      subst hkind
      obtain ⟨vs', hms', hvs'⟩ := h.replaces hms
      refine ⟨vs', hms', hvs'.tag _ _ List.mem_cons_self ?_ he.tag,
        bufferedEvent_of_replaces hvs' he.fields⟩
      cases e.kind <;> simp [EventKind.fieldNames]
  | @choice m ms os lead trail front back o items fields hname hvalue hitems ho hos =>
      cases hms with
      | @cons _ nv _ vs hm hms =>
          obtain ⟨name, v⟩ := nv
          obtain rfl : name = "choices" := hm.named.unique hname
          obtain rfl : v = .list items :=
            hm.value.unique (hvalue ▸ hitems.means (by decide))
          obtain ⟨front', w, back', rfl, hw, hreplace⟩ := hitems.replace
          obtain rfl : w = .object fields := hw.unique (ho.means (by decide))
          obtain ⟨fields', hos', hfields⟩ := hos.replaces ho.members
          have ho' : ObjectText.Tells 2 { o with members := os } fields' :=
            ⟨ho.lead, hos', ho.trail⟩
          have hitems' := hreplace _ _ (ho'.means (by decide))
          refine ⟨_, .cons ⟨hname.withValue _, hitems'.means (by decide)⟩ hms,
            he.replace_choices hkind fun xs hxs => Value.listOf_replace ?_ hxs⟩
          exact fun x hx => hfields.object follows_choiceRecord hx
  | trans _ _ ih ih' =>
      obtain ⟨vs', hms', he'⟩ := ih hkind hms he
      exact ih' hkind hms' he'

end

/-- **Members in any order.** An event is read as the same event whatever the order of its members,
whichever of the names of a field they use, and whatever unknown members stand among them: the text
of every object that is read as an event has the parts of one, its choices too, and the event is
read of all texts with these parts written in another way. -/
theorem event_in_any_order {s : String} {e : Event}
    (hobject : (skipSpace s.toList).head? = some '{') (h : decodeText event s = .ok e) :
    (∃ o vs, s.toList = ObjectText.chars o ∧ o.Tells 0 vs ∧
      ∀ m ∈ o.members, ∀ v items, Means 1 m.value (.list (v :: items)) →
        ∃ l : ListText, m.value = l.chars ∧ l.Tells 1 (v :: items) ∧
          ∀ item ∈ l.items, ∀ field fields, Means 2 item (.object (field :: fields)) →
            ∃ choice : ObjectText, item = choice.chars ∧ choice.Tells 2 (field :: fields)) ∧
    ∀ o vs ms, s.toList = ObjectText.chars o → o.Tells 0 vs → Rewritten e.kind o.members ms →
      decodeText event (String.ofList { o with members := ms }.chars) = .ok e := by
  obtain ⟨vs, hmeans, hof⟩ := exists_of_decodeText hobject h
  refine ⟨?_, ?_⟩
  · have hsome : vs ≠ [] := by
      rintro rfl
      cases hof.tag
    obtain ⟨o, hchars, ho⟩ := hmeans.objectText hsome
    refine ⟨o, vs, hchars, ho, fun m _ v items hlist => ?_⟩
    obtain ⟨l, hl, hitems⟩ := hlist.listText (List.cons_ne_nil v items)
    exact ⟨l, hl, hitems, fun item _ field fields hitem =>
      hitem.objectText (List.cons_ne_nil field fields)⟩
  · intro o vs' ms hchars ho hms
    rw [hchars] at hmeans
    obtain ⟨⟩ := hmeans.unique (ho.means (by decide))
    obtain ⟨vs', hms', hof'⟩ := hms.eventOf rfl ho.members hof
    have ho' : ObjectText.Tells 0 { o with members := ms } vs' := ⟨ho.lead, hms', ho.trail⟩
    refine decodeText_of_means ?_ hof'
    rw [String.toList_ofList]
    exact ho'.means (by decide)

/-! A question, and the same question with its answer in front, called by its other name, and with
something unknown. -/

def questionKind : Member where
  key := "type".toList
  value := "\"textMessage\"".toList

def questionText : Member where
  before := [' ']
  key := "text".toList
  value := "\"Go?\"".toList

def questionSince : Member where
  key := "since".toList
  value := "[1]".toList

def answerLabel : Member where
  key := "label".toList
  value := "\"Yes\"".toList

def answerFlag : Member where
  key := "flag".toList
  value := " \"go\" ".toList

def answerContent : Member :=
  { answerLabel with key := "content".toList }

/-- The choices of the question, when its only answer has these members. -/
def questionChoices (answer : List Member) : Member where
  key := "choices".toList
  value := ListText.chars { items := [ObjectText.chars { members := answer }] }

/-- The question as it is asked. -/
def question : ObjectText where
  members := [questionKind, questionText, questionChoices [answerLabel, answerFlag]]

theorem tells_questionKind : questionKind.Tells 1 ("type", .text "textMessage") :=
  ⟨⟨by decide, rfl, by decide⟩, [], ⟨rfl, rfl⟩, by decide⟩

theorem tells_questionText : questionText.Tells 1 ("text", .text "Go?") :=
  ⟨⟨by decide, rfl, by decide⟩, [], ⟨rfl, rfl⟩, by decide⟩

theorem tells_questionSince : questionSince.Tells 1 ("since", .list [.number (.int 1)]) :=
  ⟨⟨by decide, rfl, by decide⟩, [], ⟨rfl, rfl⟩, by decide⟩

theorem tells_answerLabel : answerLabel.Tells 3 ("label", .text "Yes") :=
  ⟨⟨by decide, rfl, by decide⟩, [], ⟨rfl, rfl⟩, by decide⟩

theorem tells_answerFlag : answerFlag.Tells 3 ("flag", .text "go") :=
  ⟨⟨by decide, rfl, by decide⟩, [' '], ⟨rfl, rfl⟩, by decide⟩

theorem tells_answer : ObjectText.Tells 2 { members := [answerLabel, answerFlag] }
    [("label", .text "Yes"), ("flag", .text "go")] :=
  ⟨by decide, .cons tells_answerLabel (.cons tells_answerFlag .nil), by decide⟩

theorem tells_answers : ListText.Tells 1
    { items := [] ++ ObjectText.chars { members := [answerLabel, answerFlag] } :: [] }
    [.object [("label", .text "Yes"), ("flag", .text "go")]] :=
  ⟨by decide, .cons (tells_answer.means (by decide)) .nil, by decide⟩

theorem named_questionChoices (answer : List Member) :
    (questionChoices answer).Named "choices" :=
  ⟨List.forall_mem_nil _, rfl, List.forall_mem_nil _⟩

theorem tells_question : question.Tells 0
      [("type", .text "textMessage"), ("text", .text "Go?"),
        ("choices", .list [.object [("label", .text "Yes"), ("flag", .text "go")]])] :=
  ⟨by decide, .cons tells_questionKind (.cons tells_questionText
    (.cons ⟨named_questionChoices _, tells_answers.means (by decide)⟩ .nil)), by decide⟩

theorem rearranged_answer :
    Rearranged 3 Choice.fieldNames [answerLabel, answerFlag] [answerFlag, answerContent] := by
  have hgroup : ["label", "content"] ∈ Choice.fieldNames := by simp [Choice.fieldNames]
  have hcontent : answerContent.Named "content" := ⟨by decide, rfl, by decide⟩
  exact .trans (.rename hgroup (by simp) (by simp) tells_answerLabel.named hcontent)
    (.reorder (.swap _ _ _))

theorem rewritten_question : Rewritten .message question.members
    [questionSince, questionChoices [answerFlag, answerContent], questionText, questionKind] := by
  have hnew : ∀ group ∈ ["type"] :: EventKind.message.fieldNames, "since" ∉ group := by
    simp [EventKind.fieldNames]
  have hback : question.members.Perm
      [questionChoices [answerLabel, answerFlag], questionText, questionKind] :=
    (List.reverse_perm _).symm
  exact .trans (.fields (.reorder hback))
    (.trans (.choice (named_questionChoices _) rfl tells_answers tells_answer rearranged_answer)
      (.fields (.insert tells_questionSince hnew)))

theorem event_in_any_order_question :
    decodeText event (String.ofList question.chars) =
        .ok (.message { text := "Go?", choices := [⟨"Yes", "go"⟩] }) ∧
      decodeText event (String.ofList (ObjectText.chars
        { members := [questionSince, questionChoices [answerFlag, answerContent], questionText,
            questionKind] })) =
        .ok (.message { text := "Go?", choices := [⟨"Yes", "go"⟩] }) := by
  have hchars : (String.ofList question.chars).toList = question.chars := String.toList_ofList
  have hread : decodeText event (String.ofList question.chars) =
      .ok (.message { text := "Go?", choices := [⟨"Yes", "go"⟩] }) :=
    decodeText_of_means (hchars ▸ tells_question.means (by decide)) ⟨rfl, rfl⟩
  exact ⟨hread, (event_in_any_order (hchars ▸ tells_question.head) hread).2 question _ _ hchars
    tells_question rewritten_question⟩

end Format

end Cutscene
