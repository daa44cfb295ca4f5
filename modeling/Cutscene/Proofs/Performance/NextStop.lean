import Cutscene.Proofs.Session.Display
import Mathlib.Order.Bounds.Defs
/-!
# Where a call comes to

A call plays on to the first event that the performance has to wait at, or to the end of the script.
Whether it waits at an event hangs on the flags that the events in front of it have left, so the
place is told from the script, the flags and the cast alone (`Script.stops`): it is the least of
these indices.  `EndsAt` says how a call ends that has come to an index, and `Stretch.endsAt` that
every stretch ends so, at the least one.
-/

namespace Cutscene

open Journal (Note)

/-! ## Events -/

namespace Event

/-- The flags once an event is passed. -/
def write (store : Store) : Event → Store
  | addFlag key value => store.set key value
  | removeFlag key => store.erase key
  | _ => store

/-- The amount that an event pays or takes. -/
def amount? : Event → Option Float
  | transaction amount => some amount
  | _ => none

/-- Whether a performance waits at an event: at a message whose flags are all present, and at a walk
whose walker is in the cast. -/
def Stops (b : Binding) (c : Cast) (store : Store) : Event → Prop
  | message m => ∀ key ∈ m.required, store.contains key = true
  | walk w => ∃ a, c.get? (b.walker w.actor) = some a
  | _ => False

/-- What is waited for at an event, once it is waited at. -/
def waitsFor? (b : Binding) : Event → Option Suspension
  | message m => some (if m.choices = [] then .confirm else .choice)
  | walk w => some (.walk (b.walker w.actor))
  | _ => none

/-- What appears on the screen at an event, once it is waited at. -/
def display : Event → List ScreenEntry
  | message m =>
    .text m.text :: if m.choices = [] then [] else [.choices (m.choices.map (·.label))]
  | _ => []

end Event

/-- The balances that amounts lead to, one after the other. -/
def runningBalances : Float → List Float → List Float
  | _, [] => []
  | balance, amount :: amounts => (balance + amount) :: runningBalances (balance + amount) amounts

/-! ## Parts of a script -/

namespace Script

/-- The events from one index up to another. -/
def between (script : Script) (lo hi : Nat) : List Event :=
  (script.events.take hi).drop lo

/-- The flags in front of the event with an index, when the event with another one was next. -/
def storeAt (script : Script) (store : Store) (lo hi : Nat) : Store :=
  (script.between lo hi).foldl Event.write store

/-- The amounts of the transactions from one index up to another. -/
def amounts (script : Script) (lo hi : Nat) : List Float :=
  (script.between lo hi).filterMap Event.amount?

/-- Whether a performance waits at the event with an index, when the event with another one is
next. -/
def StopsAt (script : Script) (b : Binding) (c : Cast) (store : Store) (lo i : Nat) : Prop :=
  ∃ e, script.events[i]? = some e ∧ e.Stops b c (script.storeAt store lo i)

/-- Where a performance may come to rest, when the event with an index is next: at the events that
it waits at, and at the end of the script. -/
def stops (script : Script) (b : Binding) (c : Cast) (store : Store) (lo : Nat) : Set Nat :=
  fun i => lo ≤ i ∧ (script.StopsAt b c store lo i ∨ i = script.length)

/-- How a performance stands that has come to rest at an index. -/
def statusAt (script : Script) (b : Binding) (i : Nat) : Status :=
  ((script.events[i]?.bind (Event.waitsFor? b)).map Status.paused).getD .finished

/-- What appears on the screen when a performance comes to rest at an index. -/
def displayAt (script : Script) (i : Nat) : List ScreenEntry :=
  script.events[i]?.elim [] Event.display

variable {script : Script} {e : Event} {lo hi : Nat}

theorem between_self (script : Script) (lo : Nat) : script.between lo lo = [] := by
  refine List.drop_eq_nil_of_le ?_
  rw [List.length_take]
  exact Nat.min_le_left _ _

theorem between_of_lt (hevent : script.events[lo]? = some e) (hlt : lo < hi) :
    script.between lo hi = e :: script.between (lo + 1) hi := by
  obtain ⟨hlength, heq⟩ := List.getElem?_eq_some_iff.1 hevent
  have htake : lo < (script.events.take hi).length := by
    rw [List.length_take]
    omega
  rw [between, List.drop_eq_getElem_cons htake, List.getElem_take, heq]
  rfl

theorem storeAt_self (script : Script) (store : Store) (lo : Nat) :
    script.storeAt store lo lo = store := by
  rw [storeAt, between_self]
  rfl

theorem storeAt_of_lt (hevent : script.events[lo]? = some e) (hlt : lo < hi) (store : Store) :
    script.storeAt store lo hi = script.storeAt (e.write store) (lo + 1) hi := by
  rw [storeAt, between_of_lt hevent hlt]
  rfl

theorem amounts_of_lt (hevent : script.events[lo]? = some e) (hlt : lo < hi) :
    script.amounts lo hi = e.amount?.toList ++ script.amounts (lo + 1) hi := by
  rw [amounts, between_of_lt hevent hlt, List.filterMap_cons]
  cases e.amount? <;> rfl

theorem isLeast_stops_self {b : Binding} {c : Cast} {store : Store}
    (hstop : script.StopsAt b c store lo lo ∨ lo = script.length) :
    IsLeast (script.stops b c store lo) lo :=
  ⟨⟨Nat.le_refl lo, hstop⟩, fun _ hi => hi.1⟩

theorem isLeast_stops_succ {b : Binding} {c : Cast} {store : Store} {j : Nat}
    (hevent : script.events[lo]? = some e) (hpassed : ¬ e.Stops b c store)
    (h : IsLeast (script.stops b c (e.write store) (lo + 1)) j) :
    IsLeast (script.stops b c store lo) j := by
  have hsame : ∀ i, lo < i →
      (script.StopsAt b c store lo i ↔ script.StopsAt b c (e.write store) (lo + 1) i) := by
    intro i hlt
    rw [StopsAt, StopsAt, storeAt_of_lt hevent hlt]
  obtain ⟨⟨hle, hstop⟩, hleast⟩ := h
  refine ⟨⟨Nat.le_of_succ_le hle, hstop.imp_left (hsame j hle).2⟩, ?_⟩
  rintro i ⟨hi, hstop⟩
  rcases Nat.eq_or_lt_of_le hi with rfl | hlt
  · refine absurd hstop (not_or.2 ⟨?_, ?_⟩)
    · rintro ⟨d, hd, hstops⟩
      obtain rfl := Option.some.inj (hevent.symm.trans hd)
      rw [storeAt_self] at hstops
      exact hpassed hstops
    · exact Nat.ne_of_lt (List.getElem?_eq_some_iff.1 hevent).1
  · exact hleast ⟨hlt, hstop.imp_left (hsame i hlt).1⟩

end Script

/-! ## What single events do -/

namespace Scene

variable {s s' : Scene} {b : Binding} {e : Event} {notes : List Note}

theorem stops_message_iff {m : Message} {c : Cast} {store : Store} :
    (Event.message m).Stops b c store ↔ store.containsAll m.required = true :=
  List.all_eq_true.symm

theorem Passes.not_stops {index : Nat} (h : s.Passes b index e s' notes) :
    ¬ e.Stops b s.cast s.store := by
  cases h with
  | withheld hflags => simp [stops_message_iff, hflags]
  | walkerMissing hmissing => simp [Event.Stops, hmissing]
  | addFlag => exact id
  | removeFlag => exact id
  | transaction => exact id

theorem Passes.store_eq {index : Nat} (h : s.Passes b index e s' notes) :
    s'.store = e.write s.store := by
  cases h <;> rfl

/-- An event that is passed pays what it says, and nothing else appears but the balance. -/
theorem Passes.paid {index : Nat} (h : s.Passes b index e s' notes) :
    s'.wallet.balance = e.amount?.toList.foldl (· + ·) s.wallet.balance ∧
      s'.screen.transcript = s.screen.transcript ++
        (runningBalances s.wallet.balance e.amount?.toList).map (.balance <| moneyText ·) := by
  cases h with
  | transaction => exact ⟨rfl, rfl⟩
  | withheld | walkerMissing | addFlag | removeFlag => exact ⟨rfl, (List.append_nil _).symm⟩

theorem present_store (s : Scene) (b : Binding) (m : Message) :
    (s.present b m).1.store = s.store := by
  rw [present, turnSpeaker_eq]

theorem Halts.stops {ticket : Ticket} {pause : Pause} (h : s.Halts b ticket e pause s' notes) :
    e.Stops b s.cast s.store := by
  cases h with
  | message hflags => exact stops_message_iff.2 hflags
  | choice hflags => exact stops_message_iff.2 hflags
  | walk hactor => exact ⟨_, hactor⟩

theorem Halts.waitsFor?_eq {ticket : Ticket} {pause : Pause}
    (h : s.Halts b ticket e pause s' notes) : e.waitsFor? b = some pause.waitsFor := by
  cases h with
  | message _ hchoices => exact congrArg some (if_pos hchoices)
  | choice _ hchoices => exact congrArg some (if_neg hchoices)
  | walk => rfl

/-- An event that is waited at leaves flags and money alone, and appears on the screen. -/
theorem Halts.shown {ticket : Ticket} {pause : Pause} (h : s.Halts b ticket e pause s' notes) :
    s'.store = s.store ∧ s'.wallet = s.wallet ∧
      s'.screen.transcript = s.screen.transcript ++ e.display := by
  cases h with
  | @message m _ hchoices =>
      refine ⟨s.present_store b m, s.present_wallet b m, ?_⟩
      rw [present_screen, Event.display, if_pos hchoices]
      rfl
  | @choice m _ hchoices =>
      refine ⟨s.present_store b m, s.present_wallet b m, ?_⟩
      rw [present_screen, Event.display, if_neg hchoices]
      exact List.append_assoc _ _ _
  | walk => exact ⟨rfl, rfl, (List.append_nil _).symm⟩

end Scene

/-! ## Calls -/

theorem runningBalances_append (balance : Float) (xs ys : List Float) :
    runningBalances balance (xs ++ ys) =
      runningBalances balance xs ++ runningBalances (xs.foldl (· + ·) balance) ys := by
  induction xs generalizing balance with
  | nil => rfl
  | cons x xs ih => exact congrArg ((balance + x) :: ·) (ih (balance + x))

namespace Performance

/-- A turn has come from one index of a script to another: the performance stands there, and has
done to flags and money what the events in between say; every balance has appeared and then the
event that is waited at. -/
structure EndsAt (script : Script) (b : Binding) (lo hi : Nat) (s : Scene) (t : Turn) : Prop where
  cursor : t.performance.cursor = hi
  status : t.performance.status = script.statusAt b hi
  store : t.scene.store = script.storeAt s.store lo hi
  balance : t.scene.wallet.balance = (script.amounts lo hi).foldl (· + ·) s.wallet.balance
  transcript : t.scene.screen.transcript = s.screen.transcript ++
    (runningBalances s.wallet.balance (script.amounts lo hi)).map (.balance <| moneyText ·) ++
      script.displayAt hi

variable {b : Binding} {p : Performance} {s : Scene} {t : Turn}

theorem EndsAt.after {script : Script} {lo hi : Nat} (h : EndsAt script b lo hi s t)
    (notes : List Note) : EndsAt script b lo hi s (t.after notes) :=
  ⟨h.cursor, h.status, h.store, h.balance, h.transcript⟩

theorem EndsAt.here {script : Script} {i : Nat} (hcursor : t.performance.cursor = i)
    (hstatus : t.performance.status = script.statusAt b i) (hstore : t.scene.store = s.store)
    (hwallet : t.scene.wallet = s.wallet)
    (htranscript : t.scene.screen.transcript = s.screen.transcript ++ script.displayAt i) :
    EndsAt script b i i s t where
  cursor := hcursor
  status := hstatus
  store := hstore.trans (script.storeAt_self s.store i).symm
  balance := by
    rw [hwallet, Script.amounts, Script.between_self]
    rfl
  transcript := by
    rw [htranscript, Script.amounts, Script.between_self]
    exact congrArg (· ++ _) (List.append_nil _).symm

theorem EndsAt.of_passes {script : Script} {s' : Scene} {e : Event} {notes : List Note}
    {lo hi : Nat} (hevent : script.events[lo]? = some e) (hpass : s.Passes b lo e s' notes)
    (hlt : lo < hi) (h : EndsAt script b (lo + 1) hi s' t) : EndsAt script b lo hi s t where
  cursor := h.cursor
  status := h.status
  store := by rw [h.store, hpass.store_eq, Script.storeAt_of_lt hevent hlt]
  balance := by
    rw [h.balance, hpass.paid.1, Script.amounts_of_lt hevent hlt, List.foldl_append]
  transcript := by
    rw [h.transcript, hpass.paid.2, hpass.paid.1, Script.amounts_of_lt hevent hlt,
      runningBalances_append, List.map_append, List.append_assoc s.screen.transcript]

/-- A stretch ends at the first event that it has to wait at, or at the end of the script. -/
theorem Stretch.endsAt (h : Stretch b p s t) (hle : p.cursor ≤ p.script.length) :
    IsLeast (p.script.stops b s.cast s.store p.cursor) t.performance.cursor ∧
      EndsAt p.script b p.cursor t.performance.cursor s t := by
  induction h with
  | @atEnd p s hnone =>
      have hend : p.cursor = p.script.length := Nat.le_antisymm hle (current?_eq_none_iff.1 hnone)
      have hevent : p.script.events[p.cursor]? = none := hnone
      refine ⟨Script.isLeast_stops_self (.inr hend), .here rfl ?_ rfl rfl ?_⟩
      · rw [Script.statusAt, hevent]
        rfl
      · rw [Script.displayAt, hevent]
        exact (List.append_nil _).symm
  | @pass p s s' e notes t hcurrent hpass hstretch ih =>
      obtain ⟨hleast, hends⟩ := ih (cursor_lt_of_current? hcurrent)
      have hlt : p.cursor < t.performance.cursor := hstretch.ending.cursor_le
      rw [hpass.cast_eq, hpass.store_eq] at hleast
      exact ⟨Script.isLeast_stops_succ hcurrent hpass.not_stops hleast,
        (EndsAt.of_passes hcurrent hpass hlt hends).after _⟩
  | @halt p s s' e pause notes hcurrent hhalt =>
      have hevent : p.script.events[p.cursor]? = some e := hcurrent
      have hstops : p.script.StopsAt b s.cast s.store p.cursor p.cursor := by
        refine ⟨e, hcurrent, ?_⟩
        rw [Script.storeAt_self]
        exact hhalt.stops
      obtain ⟨hstore, hwallet, htranscript⟩ := hhalt.shown
      simp only [suspend_cursor]
      refine ⟨Script.isLeast_stops_self (.inl hstops), .here ?_ ?_ hstore hwallet ?_⟩
      · exact p.suspend_cursor pause
      · rw [Script.statusAt, hevent, Option.bind_some, hhalt.waitsFor?_eq]
        cases pause <;> rfl
      · rw [Script.displayAt, hevent]
        exact htranscript

theorem proceed_endsAt (hb : p.binding = some b) (hle : p.cursor ≤ p.script.length) (s : Scene) :
    ∃ j, IsLeast (p.script.stops b s.cast s.store p.cursor) j ∧
      EndsAt p.script b p.cursor j s (p.proceed s) :=
  ⟨_, (proceed_stretch hb s).endsAt hle⟩

theorem start_endsAt (p : Performance) (player : String) (initiator : Option String) (s : Scene) :
    ∃ j, IsLeast (p.script.stops ⟨player, initiator⟩ s.cast (p.purge s).scene.store 0) j ∧
      EndsAt p.script ⟨player, initiator⟩ 0 j (p.purge s).scene (p.start player initiator s) := by
  obtain ⟨t, hstretch, hturn⟩ := p.start_stretch player initiator s
  obtain ⟨hleast, hends⟩ := hstretch.endsAt (Nat.zero_le _)
  rw [hturn]
  exact ⟨_, hleast, hends.after _⟩

/-- **A call runs to the next stop.** Wherever a performance has come to that is bound to a player,
and on whatever scene it plays on: it comes to the least index from its cursor on at which it has to
wait with the flags that the events in between have left, or to the end of the script.  There it
waits for what the event asks for, with the flags and the money as those events say, and what has
appeared is the balance behind each transaction and then the event.  A start does the same from the
first event on, behind the purge. -/
theorem runs_to_next_stop {script : Script} {journal : Journal.Filter} {ticket : Ticket}
    {calls : List (Call × Scene)} {p : Performance}
    (hp : p = (fresh script journal ticket).after calls) (s : Scene) :
    (∀ b, p.binding = some b →
      ∃ j, IsLeast (script.stops b s.cast s.store p.cursor) j ∧
        EndsAt script b p.cursor j s (p.proceed s)) ∧
    ∀ player initiator,
      ∃ j, IsLeast (script.stops ⟨player, initiator⟩ s.cast (p.purge s).scene.store 0) j ∧
        EndsAt script ⟨player, initiator⟩ 0 j (p.purge s).scene (p.start player initiator s) := by
  have hconsistent : p.Consistent := by
    rw [hp]
    exact after_consistent (fresh_consistent script journal ticket) calls
  obtain rfl : p.script = script := by
    rw [hp]
    exact after_script _ calls
  exact ⟨fun b hb => proceed_endsAt hb hconsistent.cursor_le s,
    fun player initiator => p.start_endsAt player initiator s⟩

/-- A fee is taken, and whoever has paid it is thanked. -/
def takeFee : Script :=
  ⟨[], [.transaction (-2.5), .message { text := "No money?", required := ["poor"] },
    .addFlag "paid" "yes", .message { text := "Thank you.", required := ["paid"] }]⟩

/-- The thanks are waited at, and passed by once the flag is gone again. -/
theorem runs_to_next_stop_paid :
    ∃ p, p = (fresh takeFee {} 1).after [(.start "Ben" none, {})] ∧
      p.binding = some ⟨"Ben", none⟩ ∧
      (∃ j, p.cursor = 3 ∧ (p.proceed {}).performance.cursor = 4 ∧
        IsLeast (takeFee.stops ⟨"Ben", none⟩ {} (.memory .empty) p.cursor) j ∧
        EndsAt takeFee ⟨"Ben", none⟩ p.cursor j {} (p.proceed {})) ∧
      ∃ j, IsLeast (takeFee.stops ⟨"Ben", none⟩ {} (p.purge {}).scene.store 0) j ∧
        EndsAt takeFee ⟨"Ben", none⟩ 0 j (p.purge {}).scene (p.start "Ben" none {}) := by
  obtain ⟨p, hp⟩ : ∃ p, p = (fresh takeFee {} 1).after [(.start "Ben" none, {})] := ⟨_, rfl⟩
  have hb : p.binding = some ⟨"Ben", none⟩ := by rw [hp]; rfl
  have hcursor : p.cursor = 3 := by rw [hp]; rfl
  have hnext : (p.proceed {}).performance.cursor = 4 := by rw [hp]; rfl
  obtain ⟨hproceed, hstart⟩ := runs_to_next_stop hp {}
  obtain ⟨j, hleast, hends⟩ := hproceed _ hb
  exact ⟨p, hp, hb, ⟨j, hcursor, hnext, hleast, hends⟩, hstart "Ben" none⟩

end Performance

end Cutscene
