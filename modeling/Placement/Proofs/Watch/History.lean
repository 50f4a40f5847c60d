import Mathlib.Data.List.Nodup
import Mathlib.Data.List.TakeWhile
import Mathlib.Logic.Function.Basic
import Placement.Proofs.Watch.Streams

/-!
# What became of each key

The history of a store says of every key which values it was given and when it was deleted.
What the store holds, which value decoded last, and whether the events of a stream tell the
truth about the values before them, can all be read off it.

## Main definitions

* `History` — the outcomes of every key, the latest first.
* `History.record` — what an event adds.
* `History.listed`, `History.recordAll` — the histories of a listing and of the events after it.
* `History.stored` — the value that a key has.
* `History.latest?`, `History.present?` — the last value that decoded, ever and since the key
  was last absent.
* `History.Said` — a value of a key said something.
* `History.SeenOff` — a key was deleted when the last value that decoded was still there.
* `History.Throughout` — every event meets a condition on it and on the history before it.
-/

namespace Placement.Watch

-- Keys are compared by this instance, whichever others are in sight.
local instance decidableEqKey : DecidableEq ByteArray :=
  ByteArray.instDecidableEq

/-- What becomes of the key of an event that carries a pair. -/
def Event.outcome (event : Event) (pair : KeyValue) : Option ByteArray :=
  match event.change with
  | .put => some pair.value
  | .delete => none

/-- The values that each key of a store was given, and `none` for each time it was deleted,
the latest first. -/
abbrev History := ByteArray → List (Option ByteArray)

namespace History

variable {α : Type} (h : History) (decode : ByteArray → Option α)

/-- A key is given a value, or is deleted. -/
def add (h : History) (key : ByteArray) (outcome : Option ByteArray) : History :=
  Function.update h key (outcome :: h key)

@[simp] theorem add_self (key : ByteArray) (outcome : Option ByteArray) :
    h.add key outcome key = outcome :: h key :=
  Function.update_self ..

theorem add_of_ne {key other : ByteArray} (differ : other ≠ key) (outcome : Option ByteArray) :
    h.add key outcome other = h other :=
  Function.update_of_ne differ ..

/-- Adds what an event tells of its key. -/
def record (h : History) (event : Event) : History :=
  match event.now with
  | some pair => h.add pair.key (event.outcome pair)
  | none => h

theorem record_of_now {event : Event} {pair : KeyValue} (now : event.now = some pair) :
    h.record event = h.add pair.key (event.outcome pair) := by
  rw [record, now]

/-- Adds what events tell, one after the other. -/
def recordAll (h : History) (events : List Event) : History :=
  events.foldl record h

/-- The history that a listing tells: of each key it finds, the value. -/
def listed (pairs : List KeyValue) : History :=
  pairs.foldl (fun h pair => h.add pair.key (some pair.value)) fun _ => []

/-- The value that a key has, if it is there. -/
def stored (key : ByteArray) : Option ByteArray :=
  (h key).head?.join

/-- The pair that the store holds under a key. -/
def pair? (key : ByteArray) : Option KeyValue :=
  (h.stored key).map (KeyValue.mk key)

/-- What the last value of a key that decoded says. -/
def latest? (key : ByteArray) : Option α :=
  (h key).findSome? (·.bind decode)

/-- What the last value of a key that decoded says, of those since the key was last absent. -/
def present? (key : ByteArray) : Option α :=
  ((h key).takeWhile Option.isSome).findSome? (·.bind decode)

/-- Some value of a key decoded to that. -/
def Said (key : ByteArray) (a : α) : Prop :=
  ∃ value, some value ∈ h key ∧ decode value = some a

/-- The last value that decoded was still there when its key was deleted. -/
def SeenOff (decode : ByteArray → Option α) : List (Option ByteArray) → Prop
  | [] => False
  | none :: earlier => (earlier.head?.join.bind decode).isSome ∨ SeenOff decode earlier
  | some value :: earlier => decode value = none ∧ SeenOff decode earlier

/-! ## Reading a history -/

theorem stored_eq_some {key value : ByteArray} (held : h.stored key = some value) :
    ∃ earlier, h key = some value :: earlier := by
  rw [stored] at held
  cases outcomes : h key with
  | nil => simp [outcomes] at held
  | cons outcome earlier =>
    obtain rfl : outcome = some value := by simpa [outcomes] using held
    exact ⟨earlier, rfl⟩

theorem stored_eq_none {key : ByteArray} (gone : h.stored key = none) :
    h key = [] ∨ ∃ earlier, h key = none :: earlier := by
  rw [stored] at gone
  cases outcomes : h key with
  | nil => exact .inl rfl
  | cons outcome earlier =>
    obtain rfl : outcome = none := by simpa [outcomes] using gone
    exact .inr ⟨earlier, rfl⟩

/-- A value that decodes is the latest; without one the latest stays. -/
theorem latest?_add (key other : ByteArray) (outcome : Option ByteArray) :
    (h.add key outcome).latest? decode other =
      if other = key then (outcome.bind decode).or (h.latest? decode key)
      else h.latest? decode other := by
  split
  next same =>
    subst same
    rw [latest?, add_self, List.findSome?_cons]
    cases outcome.bind decode <;> rfl
  next differ => rw [latest?, add_of_ne h differ, latest?]

/-- A value that decodes is present; one that does not leaves what was; once the key is
deleted nothing is. -/
theorem present?_add (key other : ByteArray) (outcome : Option ByteArray) :
    (h.add key outcome).present? decode other =
      if other = key then outcome.bind fun value => (decode value).or (h.present? decode key)
      else h.present? decode other := by
  split
  next same =>
    subst same
    cases outcome with
    | none => simp [present?]
    | some value =>
      rw [present?, add_self, List.takeWhile_cons_of_pos rfl, List.findSome?_cons,
        Option.bind_some, Option.bind_some]
      cases decode value <;> rfl
  next differ => rw [present?, add_of_ne h differ, present?]

/-- A value that is there and decodes is what is present. -/
theorem present?_of_stored {key value : ByteArray} {a : α} (held : h.stored key = some value)
    (decodes : decode value = some a) : h.present? decode key = some a := by
  obtain ⟨earlier, outcomes⟩ := h.stored_eq_some held
  simp [present?, outcomes, decodes]

/-- Of a key that is absent nothing is present. -/
theorem present?_of_absent {key : ByteArray} (gone : h.stored key = none) :
    h.present? decode key = none := by
  rcases h.stored_eq_none gone with outcomes | ⟨earlier, outcomes⟩ <;> simp [present?, outcomes]

theorem latest?_of_stored {key value : ByteArray} {a : α} (held : h.stored key = some value)
    (decodes : decode value = some a) : h.latest? decode key = some a := by
  obtain ⟨earlier, outcomes⟩ := h.stored_eq_some held
  simp [latest?, outcomes, decodes]

theorem said_of_latest? {key : ByteArray} {a : α} (latest : h.latest? decode key = some a) :
    h.Said decode key a := by
  obtain ⟨outcome, there, decodes⟩ := List.exists_of_findSome?_eq_some latest
  obtain ⟨value, rfl, decodes⟩ := Option.bind_eq_some_iff.mp decodes
  exact ⟨value, there, decodes⟩

theorem said_add {key other : ByteArray} {outcome : Option ByteArray} {a : α} :
    (h.add key outcome).Said decode other a ↔
      other = key ∧ outcome.bind decode = some a ∨ h.Said decode other a := by
  by_cases same : other = key
  · subst same
    simp [Said, Option.bind_eq_some_iff, or_and_right, exists_or, eq_comm]
  · simp [Said, add_of_ne h same, same]

variable {h decode} in
theorem Said.record {key : ByteArray} {a : α} (said : h.Said decode key a) (event : Event) :
    (h.record event).Said decode key a := by
  cases now : event.now with
  | none =>
    rw [History.record, now]
    exact said
  | some pair =>
    rw [h.record_of_now now, said_add]
    exact .inr said

variable {h decode} in
theorem Said.recordAll {key : ByteArray} {a : α} (said : h.Said decode key a)
    (events : List Event) : (h.recordAll events).Said decode key a := by
  induction events generalizing h with
  | nil => exact said
  | cons event events ih => exact ih (said.record event)

/-- A value that does not decode tells nothing, and neither does the loss of one. -/
theorem add_of_untold {key : ByteArray} {outcome : Option ByteArray}
    (untold : outcome.bind decode = none)
    (unseen : outcome = none → (h.stored key).bind decode = none) (other : ByteArray) :
    (h.add key outcome).latest? decode other = h.latest? decode other ∧
      (SeenOff decode (h.add key outcome other) ↔ SeenOff decode (h other)) := by
  by_cases same : other = key
  · subst same
    rw [latest?_add, if_pos rfl, untold, Option.none_or, add_self]
    refine ⟨rfl, ?_⟩
    cases outcome with
    | none =>
      have before : (h other).head?.join.bind decode = none := unseen rfl
      simp [SeenOff, before]
    | some value =>
      have undecodable : decode value = none := untold
      simp [SeenOff, undecodable]
  · rw [latest?_add, if_neg same, add_of_ne h same]
    exact ⟨rfl, Iff.rfl⟩

/-! ## Listings -/

theorem listed_apply (pairs : List KeyValue) (key : ByteArray) :
    listed pairs key =
      ((pairs.filter fun pair => pair.key = key).map fun pair => some pair.value).reverse := by
  have from_any (h : History) : pairs.foldl (fun h pair => h.add pair.key (some pair.value)) h key =
      ((pairs.filter fun pair => pair.key = key).map fun pair => some pair.value).reverse ++
        h key := by
    induction pairs generalizing h with
    | nil => rfl
    | cons pair pairs ih =>
      rw [List.foldl_cons, ih]
      by_cases same : pair.key = key
      · subst same
        simp
      · simp [same, add_of_ne h (Ne.symm same)]
  rw [listed, from_any, List.append_nil]

/-- A listing tells of the values that it finds. -/
theorem mem_listed {pairs : List KeyValue} {key : ByteArray} {outcome : Option ByteArray} :
    outcome ∈ listed pairs key ↔ ∃ pair ∈ pairs, pair.key = key ∧ some pair.value = outcome := by
  simp [listed_apply, and_assoc]

@[simp] theorem not_said_listed_nil (key : ByteArray) (a : α) : ¬(listed []).Said decode key a := by
  simp [Said, mem_listed]

/-- Where a listing finds every key once, what it says of a key is what its value says. -/
theorem present?_listed {pairs : List KeyValue} (distinct : (pairs.map (·.key)).Nodup)
    {key : ByteArray} {a : α} :
    (listed pairs).present? decode key = some a ↔
      ∃ pair ∈ pairs, pair.key = key ∧ decode pair.value = some a := by
  have found {b : α} (h : (listed pairs).present? decode key = some b) :
      ∃ pair ∈ pairs, pair.key = key ∧ decode pair.value = some b := by
    obtain ⟨outcome, there, decodes⟩ := List.exists_of_findSome?_eq_some h
    obtain ⟨pair, found, named, rfl⟩ := mem_listed.mp ((List.takeWhile_sublist _).subset there)
    exact ⟨pair, found, named, decodes⟩
  refine ⟨found, ?_⟩
  rintro ⟨pair, there, rfl, decodes⟩
  have all : (listed pairs pair.key).takeWhile Option.isSome = listed pairs pair.key := by
    refine List.takeWhile_eq_self_iff.mpr fun outcome told => ?_
    obtain ⟨_, _, _, rfl⟩ := mem_listed.mp told
    rfl
  have some_found : ((listed pairs).present? decode pair.key).isSome := by
    rw [present?, all, List.isSome_findSome?, List.any_eq_true]
    exact ⟨some pair.value, mem_listed.mpr ⟨pair, there, rfl, rfl⟩, by simp [decodes]⟩
  obtain ⟨b, hb⟩ := Option.isSome_iff_exists.mp some_found
  obtain ⟨other, there', same, decodes'⟩ := found hb
  obtain rfl := List.inj_on_of_nodup_map distinct there' there same
  rw [hb, ← decodes, decodes']

/-! ## Conditions on events -/

/-- Every event meets a condition on it and on the history before it. -/
def Throughout (P : History → Event → Prop) (h : History) (events : List Event) : Prop :=
  ∀ earlier event later, events = earlier ++ event :: later → P (h.recordAll earlier) event

theorem throughout_nil {P : History → Event → Prop} : Throughout P h [] := by
  intro earlier event later split
  simp at split

theorem throughout_cons {P : History → Event → Prop} {event : Event} {events : List Event} :
    Throughout P h (event :: events) ↔ P h event ∧ Throughout P (h.record event) events := by
  constructor
  · intro all
    refine ⟨all [] event events rfl, ?_⟩
    intro earlier next later split
    exact all (event :: earlier) next later (by rw [split, List.cons_append])
  · rintro ⟨first, rest⟩ earlier next later split
    cases earlier with
    | nil =>
      obtain ⟨rfl, rfl⟩ := List.cons.inj split
      exact first
    | cons _ earlier =>
      obtain ⟨rfl, tail⟩ := List.cons.inj split
      exact rest earlier next later tail

/-- **What holds at first and is kept by every event that meets the condition holds at the
end.** -/
theorem Throughout.run {σ : Type} {P : History → Event → Prop} {I : History → σ → Prop}
    {follow : σ → Event → σ} {h : History} {events : List Event} {s : σ}
    (all : Throughout P h events) (first : I h s)
    (step : ∀ h s event, P h event → I h s → I (h.record event) (follow s event)) :
    I (h.recordAll events) (events.foldl follow s) := by
  induction events generalizing h s with
  | nil => exact first
  | cons event events ih =>
    obtain ⟨now, rest⟩ := (throughout_cons h).mp all
    exact ih rest (step h s event now first)

end History

end Placement.Watch
