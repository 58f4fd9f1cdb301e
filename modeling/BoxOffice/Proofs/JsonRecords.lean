import BoxOffice.Json.Reader
import Mathlib.Data.List.Nodup

set_option autoImplicit false

/-!
# Records that are read from objects

A record has a place for each of its fields, and a member of that name fills it. No other member
touches the place, so what it holds in the end depends on the members of its name alone. The members
of an object are read exactly if all names can be read, all other values come to their end, and each
place is filled by one member at most.
-/

namespace BoxOffice

theorem bind_eq_ok_iff {ε α β : Type} {x : Except ε α} {f : α → Except ε β} {b : β} :
    x >>= f = .ok b ↔ ∃ a, x = .ok a ∧ f a = .ok b := by
  cases x with
  | error e => exact ⟨nofun, fun ⟨_, h, _⟩ => by cases h⟩
  | ok a => exact ⟨fun h => ⟨a, rfl, h⟩, fun ⟨_, h, hb⟩ => by cases h; exact hb⟩

namespace Json.Reader

abbrev Members := List (Option String × Document)

variable {σ α : Type} {ms rest : Members} {v : Document} {vs : List Document}
variable {name : String} {read : Reader α} {before after : Option α} {a : α}

theorem ended_eq_ok_iff {closed : Bool} {u : Unit} : ended closed = .ok u ↔ closed = true := by
  cases closed
  · exact ⟨nofun, nofun⟩
  · exact ⟨fun _ => rfl, fun _ => rfl⟩

theorem skip_eq_ok_iff {u : Unit} : skip v = .ok u ↔ v.complete = true := by
  unfold skip
  split
  · next h => exact ⟨fun _ => h, fun _ => rfl⟩
  · next h => exact ⟨nofun, fun hv => absurd hv h⟩

theorem required_eq_ok_iff {value : Option α} : required value = .ok a ↔ value = some a := by
  cases value with
  | none => exact ⟨nofun, nofun⟩
  | some b => exact ⟨fun h => by cases h; rfl, fun h => by cases h; rfl⟩

def valuesOf (ms : Members) (name : String) : List Document :=
  (ms.filter fun m => m.1 == some name).map (·.2)

theorem valuesOf_cons_self : valuesOf ((some name, v) :: rest) name = v :: valuesOf rest name := by
  simp [valuesOf]

theorem valuesOf_cons_of_ne {other : String} (h : other ≠ name) :
    valuesOf ((some other, v) :: rest) name = valuesOf rest name := by
  simp [valuesOf, h]

/-- From what a place holds before the values, they lead to what it holds after them. -/
def Fills (read : Reader α) (before after : Option α) : List Document → Prop
  | [] => before = after
  | [v] => before = none ∧ ∃ a, read v = .ok a ∧ some a = after
  | _ => False

theorem fills_cons_iff : Fills read before after (v :: vs) ↔
    before = none ∧ ∃ a, read v = .ok a ∧ Fills read (some a) after vs := by
  cases vs with
  | nil => exact Iff.rfl
  | cons w ws =>
    refine ⟨False.elim, fun ⟨_, _, _, h⟩ => ?_⟩
    cases ws with
    | nil => cases h.1
    | cons => exact h

theorem fills_none_some_iff :
    Fills read none (some a) vs ↔ ∃ v, vs = [v] ∧ read v = .ok a := by
  cases vs with
  | nil => exact ⟨nofun, fun ⟨_, h, _⟩ => by cases h⟩
  | cons v vs =>
    rw [fills_cons_iff]
    constructor
    · rintro ⟨-, b, hb, h⟩
      cases vs with
      | nil => cases h; exact ⟨v, rfl, hb⟩
      | cons => cases (fills_cons_iff.1 h).1
    · rintro ⟨w, h, hw⟩
      cases h
      exact ⟨rfl, a, hw, rfl⟩

structure Place (σ : Type) where
  Value : Type
  name : String
  read : Reader Value
  get : σ → Option Value
  set : σ → Value → σ
  get_set : ∀ part a, get (set part a) = some a

def Place.field (p : Place σ) : Field σ :=
  ⟨p.name, fun part => (p.get part).isSome, fun part v => do
    let a ← p.read v
    .ok (p.set part a)⟩

/-- Places with names of their own, none of which touches another. -/
structure Layout (σ : Type) where
  places : List (Place σ)
  nodup : (places.map (·.name)).Nodup
  get_set_of_ne : ∀ p ∈ places, ∀ q ∈ places, p.name ≠ q.name → ∀ part a,
    q.get (p.set part a) = q.get part

namespace Layout

variable {l : Layout σ} {p q : Place σ} {part result : σ}

def fields (l : Layout σ) : List (Field σ) := l.places.map Place.field

theorem eq_of_name_eq (hp : p ∈ l.places) (hq : q ∈ l.places) (h : p.name = q.name) : p = q :=
  List.inj_on_of_nodup_map l.nodup hp hq h

theorem find?_place (hp : p ∈ l.places) :
    l.places.find? (fun q => q.name == p.name) = some p := by
  cases h : l.places.find? (fun q => q.name == p.name) with
  | none => exact absurd (List.find?_eq_none.1 h p hp) (by simp)
  | some q =>
    have hname : q.name = p.name := by simpa using List.find?_some h
    rw [eq_of_name_eq (List.mem_of_find?_eq_some h) hp hname]

theorem members_cons_place (hp : p ∈ l.places) :
    members l.fields part ((some p.name, v) :: rest) = .ok result ↔
      p.get part = none ∧ ∃ a, p.read v = .ok a ∧
        members l.fields (p.set part a) rest = .ok result := by
  have hfield : l.fields.find? (fun f => f.name == p.name) = some p.field := by
    rw [fields, List.find?_map]
    exact congrArg _ (find?_place hp)
  rw [members, hfield]
  cases hget : p.get part with
  | none =>
    have hset : p.field.isSet part = false := congrArg Option.isSome hget
    have hread : p.field.read part v = p.read v >>= fun a => .ok (p.set part a) := rfl
    simp only [hset, Bool.false_eq_true, if_false, hread, bind_eq_ok_iff, true_and]
    constructor
    · rintro ⟨_, ⟨a, ha, h⟩, hm⟩
      cases h
      exact ⟨a, ha, hm⟩
    · rintro ⟨a, ha, hm⟩
      exact ⟨_, ⟨a, ha, rfl⟩, hm⟩
  | some a =>
    have hset : p.field.isSet part = true := congrArg Option.isSome hget
    simp only [hset, if_true]
    exact ⟨nofun, fun h => nomatch h.1⟩

theorem members_cons_other (h : ∀ p ∈ l.places, p.name ≠ name) :
    members l.fields part ((some name, v) :: rest) = .ok result ↔
      v.complete = true ∧ members l.fields part rest = .ok result := by
  have hfield : l.fields.find? (fun f => f.name == name) = none := by
    simpa [fields, Place.field] using h
  rw [members, hfield]
  simp only [bind_eq_ok_iff, skip_eq_ok_iff]
  exact ⟨fun ⟨_, hv, hm⟩ => ⟨hv, hm⟩, fun ⟨hv, hm⟩ => ⟨(), hv, hm⟩⟩

def Agree (l : Layout σ) (part other : σ) : Prop := ∀ p ∈ l.places, p.get part = p.get other

/-- What it takes to read the members: all names can be read, what no place is for comes to its end,
and each place is filled by the members of its name. -/
structure Reads (l : Layout σ) (part : σ) (ms : Members) (result : σ) : Prop where
  named : ∀ m ∈ ms, ∃ name, m.1 = some name ∧
    (name ∈ l.places.map (·.name) ∨ m.2.complete = true)
  fills : ∀ p ∈ l.places, Fills p.read (p.get part) (p.get result) (valuesOf ms p.name)

theorem reads_nil_iff : l.Reads part [] result ↔ l.Agree part result :=
  ⟨fun h => h.fills, fun h => ⟨nofun, h⟩⟩

theorem named_cons_iff :
    (∀ m ∈ (some name, v) :: rest, ∃ n, m.1 = some n ∧
      (n ∈ l.places.map (·.name) ∨ m.2.complete = true)) ↔
    (name ∈ l.places.map (·.name) ∨ v.complete = true) ∧
      ∀ m ∈ rest, ∃ n, m.1 = some n ∧ (n ∈ l.places.map (·.name) ∨ m.2.complete = true) := by
  simp

theorem fills_cons_place {a : p.Value} (hp : p ∈ l.places) (hget : p.get part = none)
    (hread : p.read v = .ok a) (hq : q ∈ l.places) :
    Fills q.read (q.get part) (q.get result) (valuesOf ((some p.name, v) :: rest) q.name) ↔
      Fills q.read (q.get (p.set part a)) (q.get result) (valuesOf rest q.name) := by
  by_cases hname : p.name = q.name
  · obtain rfl := eq_of_name_eq hp hq hname
    rw [valuesOf_cons_self, fills_cons_iff, hget, p.get_set]
    constructor
    · rintro ⟨-, b, hb, h⟩
      obtain rfl := Except.ok.inj (hread.symm.trans hb)
      exact h
    · exact fun h => ⟨rfl, a, hread, h⟩
  · rw [valuesOf_cons_of_ne hname, l.get_set_of_ne p hp q hq hname]

theorem reads_cons_place (hp : p ∈ l.places) :
    l.Reads part ((some p.name, v) :: rest) result ↔
      p.get part = none ∧ ∃ a, p.read v = .ok a ∧ l.Reads (p.set part a) rest result := by
  constructor
  · rintro ⟨hnamed, hfills⟩
    have hown := hfills p hp
    rw [valuesOf_cons_self] at hown
    obtain ⟨hget, a, hread, -⟩ := fills_cons_iff.1 hown
    exact ⟨hget, a, hread, (named_cons_iff.1 hnamed).2,
      fun q hq => (fills_cons_place hp hget hread hq).1 (hfills q hq)⟩
  · rintro ⟨hget, a, hread, hnamed, hfills⟩
    exact ⟨named_cons_iff.2 ⟨.inl (List.mem_map_of_mem hp), hnamed⟩,
      fun q hq => (fills_cons_place hp hget hread hq).2 (hfills q hq)⟩

theorem reads_cons_other (h : ∀ p ∈ l.places, p.name ≠ name) :
    l.Reads part ((some name, v) :: rest) result ↔
      v.complete = true ∧ l.Reads part rest result := by
  have hno : name ∉ l.places.map (·.name) := fun hm => by
    obtain ⟨p, hp, hname⟩ := List.mem_map.1 hm
    exact h p hp hname
  have hvalues : ∀ p ∈ l.places,
      valuesOf ((some name, v) :: rest) p.name = valuesOf rest p.name :=
    fun p hp => valuesOf_cons_of_ne (h p hp).symm
  constructor
  · rintro ⟨hnamed, hfills⟩
    obtain ⟨hv, hnamed⟩ := named_cons_iff.1 hnamed
    exact ⟨hv.resolve_left hno, hnamed, fun p hp => hvalues p hp ▸ hfills p hp⟩
  · rintro ⟨hv, hnamed, hfills⟩
    exact ⟨named_cons_iff.2 ⟨.inr hv, hnamed⟩, fun p hp => hvalues p hp ▸ hfills p hp⟩

theorem reads_iff : l.Reads part ms result ↔
    ∃ read, members l.fields part ms = .ok read ∧ l.Agree read result := by
  -- What is read first becomes part of the record that the rest starts from.
  induction ms generalizing part with
  | nil =>
    rw [reads_nil_iff]
    exact ⟨fun h => ⟨part, rfl, h⟩, fun ⟨_, h, hagree⟩ => by cases h; exact hagree⟩
  | cons m rest ih =>
    obtain ⟨_ | name, v⟩ := m
    · refine ⟨fun h => ?_, fun ⟨_, h, _⟩ => by cases h⟩
      obtain ⟨name, hname, -⟩ := h.named _ List.mem_cons_self
      cases hname
    · by_cases hplace : ∃ p ∈ l.places, p.name = name
      · obtain ⟨p, hp, rfl⟩ := hplace
        simp only [reads_cons_place hp, members_cons_place hp, ih]
        constructor
        · rintro ⟨hget, a, hread, read, hm, hagree⟩
          exact ⟨read, ⟨hget, a, hread, hm⟩, hagree⟩
        · rintro ⟨read, ⟨hget, a, hread, hm⟩, hagree⟩
          exact ⟨hget, a, hread, read, hm, hagree⟩
      · have hother : ∀ p ∈ l.places, p.name ≠ name := fun p hp h => hplace ⟨p, hp, h⟩
        simp only [reads_cons_other hother, members_cons_other hother, ih]
        constructor
        · rintro ⟨hv, read, hm, hagree⟩
          exact ⟨read, ⟨hv, hm⟩, hagree⟩
        · rintro ⟨read, ⟨hv, hm⟩, hagree⟩
          exact ⟨hv, read, hm, hagree⟩

theorem reads_of_members (h : members l.fields part ms = .ok result) : l.Reads part ms result :=
  reads_iff.2 ⟨result, h, fun _ _ => rfl⟩

theorem members_eq_ok_iff (hext : ∀ read other, l.Agree read other → read = other) :
    members l.fields part ms = .ok result ↔ l.Reads part ms result := by
  refine ⟨reads_of_members, fun h => ?_⟩
  obtain ⟨read, hm, hagree⟩ := reads_iff.1 h
  rw [hm, hext read result hagree]

end Layout

end Json.Reader

end BoxOffice
