import BoxOffice.Database.Schema
import BoxOffice.Proofs.Credentials
import Mathlib.Data.List.TakeWhile

set_option autoImplicit false

namespace BoxOffice

/-- All blanks at the two ends of the whole are taken away, and nothing else. -/
structure Trims {α : Type} (blank : α → Bool) (whole core : List α) : Prop where
  around : ∃ left right, whole = left ++ core ++ right ∧ (∀ a ∈ left, blank a = true) ∧
    ∀ a ∈ right, blank a = true
  first : ∀ a ∈ core.head?, blank a = false
  last : ∀ a ∈ core.getLast?, blank a = false

def strip {α : Type} (blank : α → Bool) (whole : List α) : List α :=
  ((whole.dropWhile blank).reverse.dropWhile blank).reverse

section Strip

variable {α β : Type} {blank : α → Bool} {whole core left right : List α}

theorem dropWhile_eq_self (h : ∀ a ∈ core.head?, blank a = false) :
    core.dropWhile blank = core := by
  cases core with
  | nil => rfl
  | cons a rest => simp [h a rfl]

theorem not_blank_of_head?_dropWhile {a : α} (h : a ∈ (whole.dropWhile blank).head?) :
    blank a = false := by
  have hhead := List.head?_dropWhile_not blank whole
  rwa [Option.mem_def.1 h] at hhead

theorem Trims.strip_eq (h : Trims blank whole core) : strip blank whole = core := by
  obtain ⟨⟨left, right, rfl, hleft, hright⟩, hfirst, hlast⟩ := h
  have hback : ∀ a ∈ right.reverse, blank a = true := fun a ha => hright a (List.mem_reverse.1 ha)
  have hfront : (left ++ core ++ right).dropWhile blank = (core ++ right).dropWhile blank := by
    rw [List.append_assoc, List.dropWhile_append_of_pos hleft]
  cases core with
  | nil =>
    have hall : right.dropWhile blank = [] := List.dropWhile_eq_nil_iff.2 hright
    rw [strip, hfront, List.nil_append, hall]
    rfl
  | cons a rest =>
    have hcore : (a :: rest ++ right).dropWhile blank = a :: rest ++ right :=
      dropWhile_eq_self hfirst
    rw [strip, hfront, hcore, List.reverse_append, List.dropWhile_append_of_pos hback,
      dropWhile_eq_self (by rwa [List.head?_reverse]), List.reverse_reverse]

theorem trims_strip (blank : α → Bool) (whole : List α) :
    Trims blank whole (strip blank whole) := by
  let right := ((whole.dropWhile blank).reverse.takeWhile blank).reverse
  have hright : strip blank whole ++ right = whole.dropWhile blank := by
    rw [strip, ← List.reverse_append, List.takeWhile_append_dropWhile, List.reverse_reverse]
  refine ⟨⟨whole.takeWhile blank, right, ?_, fun a => List.mem_takeWhile_imp, fun a ha => ?_⟩,
    fun a ha => ?_, fun a ha => ?_⟩
  · rw [List.append_assoc, hright, List.takeWhile_append_dropWhile]
  · exact List.mem_takeWhile_imp (List.mem_reverse.1 ha)
  · have hhead : a ∈ (whole.dropWhile blank).head? := by
      rw [← hright, List.head?_append, Option.mem_def.1 ha]
      rfl
    exact not_blank_of_head?_dropWhile hhead
  · rw [strip, List.getLast?_reverse] at ha
    exact not_blank_of_head?_dropWhile ha

theorem strip_eq_iff : strip blank whole = core ↔ Trims blank whole core :=
  ⟨fun h => h ▸ trims_strip blank whole, Trims.strip_eq⟩

theorem Trims.subset (h : Trims blank whole core) : core ⊆ whole := by
  obtain ⟨left, right, rfl, -⟩ := h.around
  exact fun a ha => List.mem_append_left _ (List.mem_append_right _ ha)

theorem Trims.self (h : Trims blank whole core) : Trims blank core core :=
  ⟨⟨[], [], by simp, nofun, nofun⟩, h.first, h.last⟩

theorem strip_append (hleft : ∀ a ∈ left, blank a = true) (hright : ∀ a ∈ right, blank a = true) :
    strip blank (left ++ whole ++ right) = strip blank whole := by
  obtain ⟨⟨left', right', hwhole, hleft', hright'⟩, hfirst, hlast⟩ := trims_strip blank whole
  refine strip_eq_iff.2 ⟨⟨left ++ left', right' ++ right, ?_, ?_, ?_⟩, hfirst, hlast⟩
  · calc
      left ++ whole ++ right = left ++ (left' ++ strip blank whole ++ right') ++ right :=
        congrArg (left ++ · ++ right) hwhole
      _ = left ++ left' ++ strip blank whole ++ (right' ++ right) := by
        simp only [List.append_assoc]
  · exact List.forall_mem_append.2 ⟨hleft, hleft'⟩
  · exact List.forall_mem_append.2 ⟨hright', hright⟩

theorem strip_map {other : β → Bool} {f : α → β} (h : ∀ a, other (f a) = blank a) :
    strip other (whole.map f) = (strip blank whole).map f := by
  have hcomp : other ∘ f = blank := funext h
  rw [strip, List.dropWhile_map, hcomp, ← List.map_reverse, List.dropWhile_map, hcomp,
    ← List.map_reverse, strip]

end Strip

namespace Http

def Visible (value : Octets) : Prop := ∀ b ∈ value, (0x20 ≤ b ∧ b ≤ 0x7e) ∨ b = 9

def isBlank (b : UInt8) : Bool := b == 0x20 || b == 9

def character (b : UInt8) : Char := Char.ofNat b.toNat

theorem toNat_character (b : UInt8) : (character b).toNat = b.toNat := by
  have hvalid : b.toNat.isValidChar := .inl (Nat.lt_trans b.toNat_lt (by decide))
  rw [character, Char.ofNat, dif_pos hvalid]
  rfl

theorem character_inj {a b : UInt8} : character a = character b ↔ a = b := by
  rw [← Char.toNat_inj, toNat_character, toNat_character, UInt8.toNat_inj]

theorem isBlank_character (b : UInt8) : Api.isBlank (character b) = isBlank b := by
  have hblank : character b = ' ' ↔ b = 0x20 := character_inj (b := 0x20)
  have htab : character b = '\t' ↔ b = 9 := character_inj (b := 9)
  simp only [Api.isBlank, isBlank, hblank, htab, Bool.beq_eq_decide_eq]

variable {value core : Octets}

theorem visibleText?_of_visible (h : Visible value) :
    visibleText? value = some (String.ofList (value.map character)) :=
  visibleText?_eq_some_iff.2 ⟨h, String.toList_ofList.symm⟩

theorem visibleText?_of_not_visible (h : ¬Visible value) : visibleText? value = none := by
  cases htext : visibleText? value with
  | none => rfl
  | some text => exact absurd (visibleText?_eq_some_iff.1 htext).1 h

theorem utf8EncodeChar_character {b : UInt8} (h : b.toNat ≤ 127) :
    String.utf8EncodeChar (character b) = [b] := by
  have hcode : (character b).val.toNat = b.toNat := toNat_character b
  rw [String.utf8EncodeChar, hcode]
  simp only [if_pos h, UInt8.ofNat_toNat]

theorem toNat_le_of_visible {b : UInt8} (h : (0x20 ≤ b ∧ b ≤ 0x7e) ∨ b = 9) : b.toNat ≤ 127 := by
  obtain ⟨-, hlast⟩ | rfl := h
  · exact Nat.le_trans (UInt8.le_iff_toNat_le.1 hlast) (by decide)
  · decide

theorem Visible.ofText_map (h : Visible value) :
    Octets.ofText (String.ofList (value.map character)) = value := by
  rw [Octets.ofText, String.toList_ofList]
  induction value with
  | nil => rfl
  | cons b rest ih =>
    obtain ⟨hb, hrest⟩ := List.forall_mem_cons.1 h
    rw [List.map_cons, List.flatMap_cons, utf8EncodeChar_character (toNat_le_of_visible hb),
      ih hrest]
    rfl

end Http

namespace Api

open Http (Visible character)

variable {headers : Http.Headers} {value core : Octets} {key : String}

/-- What is told by a field of the key alone. -/
def keyOf (value : Octets) : Except ApiError (Option String) :=
  bookingKey [("Idempotency-Key", value)]

theorem first?_field (value : Octets) :
    Http.Headers.first? [("Idempotency-Key", value)] "Idempotency-Key" = some value :=
  Http.first?_cons (beq_self_eq_true _) []

theorem bookingKey_of_first? (h : headers.first? "Idempotency-Key" = some value) :
    bookingKey headers = keyOf value := by
  simp only [keyOf, bookingKey, h, first?_field]

theorem bookingKey_of_first?_eq_none (h : headers.first? "Idempotency-Key" = none) :
    bookingKey headers = .ok none := by
  simp only [bookingKey, h]

theorem trimmed_map (value : Octets) :
    trimmed (value.map character) = (strip Http.isBlank value).map character :=
  strip_map Http.isBlank_character

theorem keyOf_of_not_visible (h : ¬Visible value) :
    keyOf value = .error (.badRequest "Idempotency-Key must be visible ASCII") := by
  simp only [keyOf, bookingKey, first?_field, Http.visibleText?_of_not_visible h]

theorem keyOf_of_visible (h : Visible value) (hcore : Trims Http.isBlank value core) :
    keyOf value =
      if core = [] then .ok none
      else if 255 < core.length then
        .error (.badRequest "Idempotency-Key must be at most 255 characters")
      else .ok (some (String.ofList (core.map character))) := by
  have htrimmed : trimmed (String.ofList (value.map character)).toList = core.map character := by
    rw [String.toList_ofList, trimmed_map, hcore.strip_eq]
  simp only [keyOf, bookingKey, first?_field, Http.visibleText?_of_visible h, htrimmed,
    List.length_map, List.map_eq_nil_iff]
  by_cases hne : core = []
  · subst hne
    rfl
  · simp only [if_neg hne]
    rfl

structure Storable (key : String) : Prop where
  nonempty : key ≠ ""
  short : key.length ≤ 255
  visible : ∀ c ∈ key.toList, (0x20 ≤ c.toNat ∧ c.toNat ≤ 0x7e) ∨ c = '\t'
  first : ∀ c ∈ key.toList.head?, isBlank c = false
  last : ∀ c ∈ key.toList.getLast?, isBlank c = false

theorem visible_character {b : UInt8} (h : (0x20 ≤ b ∧ b ≤ 0x7e) ∨ b = 9) :
    (0x20 ≤ (character b).toNat ∧ (character b).toNat ≤ 0x7e) ∨ character b = '\t' := by
  obtain ⟨hfirst, hlast⟩ | rfl := h
  · rw [UInt8.le_iff_toNat_le] at hfirst hlast
    exact .inl (Http.toNat_character b ▸ ⟨hfirst, hlast⟩)
  · exact .inr rfl

theorem storable_of_trims (h : Visible value) (hcore : Trims Http.isBlank value core)
    (hne : core ≠ []) (hshort : core.length ≤ 255) :
    Storable (String.ofList (core.map character)) where
  nonempty hempty := hne (List.map_eq_nil_iff.1 (String.ofList_eq_empty_iff.1 hempty))
  short := by rwa [String.length_ofList, List.length_map]
  visible := by
    rw [String.toList_ofList, List.forall_mem_map]
    exact fun b hb => visible_character (h b (hcore.subset hb))
  first := by
    rw [String.toList_ofList, List.head?_map]
    rintro c hc
    obtain ⟨b, hb, rfl⟩ := Option.map_eq_some_iff.1 hc
    rw [Http.isBlank_character]
    exact hcore.first b hb
  last := by
    rw [String.toList_ofList, List.getLast?_map]
    rintro c hc
    obtain ⟨b, hb, rfl⟩ := Option.map_eq_some_iff.1 hc
    rw [Http.isBlank_character]
    exact hcore.last b hb

theorem core_of_keyOf_eq_some (h : keyOf value = .ok (some key)) :
    Visible value ∧ ∃ core, Trims Http.isBlank value core ∧ core ≠ [] ∧ core.length ≤ 255 ∧
      key = String.ofList (core.map character) := by
  by_cases hvisible : Visible value
  · have hcore := trims_strip Http.isBlank value
    rw [keyOf_of_visible hvisible hcore] at h
    split at h
    · cases h
    · split at h
      · cases h
      · rename_i hne hshort
        cases h
        exact ⟨hvisible, _, hcore, hne, Nat.le_of_not_lt hshort, rfl⟩
  · rw [keyOf_of_not_visible hvisible] at h
    cases h

theorem visible_of_isBlank {b : UInt8} (h : Http.isBlank b = true) :
    (0x20 ≤ b ∧ b ≤ 0x7e) ∨ b = 9 := by
  simp only [Http.isBlank, Bool.or_eq_true, beq_iff_eq] at h
  obtain rfl | rfl := h <;> decide

theorem visible_append_iff {left right : Octets} (hleft : ∀ b ∈ left, Http.isBlank b = true)
    (hright : ∀ b ∈ right, Http.isBlank b = true) :
    Visible (left ++ value ++ right) ↔ Visible value := by
  unfold Http.Visible
  rw [List.forall_mem_append, List.forall_mem_append]
  exact ⟨fun h => h.1.2, fun h => ⟨⟨fun b hb => visible_of_isBlank (hleft b hb), h⟩,
    fun b hb => visible_of_isBlank (hright b hb)⟩⟩

theorem keyOf_append {left right : Octets} (hleft : ∀ b ∈ left, Http.isBlank b = true)
    (hright : ∀ b ∈ right, Http.isBlank b = true) :
    keyOf (left ++ value ++ right) = keyOf value := by
  have hvisible : Visible (left ++ value ++ right) ↔ Visible value :=
    visible_append_iff hleft hright
  by_cases h : Visible value
  · rw [keyOf_of_visible h (trims_strip _ value),
      keyOf_of_visible (hvisible.2 h) (trims_strip _ _), strip_append hleft hright]
  · rw [keyOf_of_not_visible h, keyOf_of_not_visible (mt hvisible.1 h)]

theorem keyOf_ofText_key (h : keyOf value = .ok (some key)) :
    Storable key ∧ keyOf (Octets.ofText key) = .ok (some key) := by
  obtain ⟨hvisible, core, hcore, hne, hshort, rfl⟩ := core_of_keyOf_eq_some h
  have hcoreVisible : Visible core := fun b hb => hvisible b (hcore.subset hb)
  refine ⟨storable_of_trims hvisible hcore hne hshort, ?_⟩
  rw [hcoreVisible.ofText_map, keyOf_of_visible hcoreVisible hcore.self,
    if_neg hne, if_neg (Nat.not_lt.2 hshort)]

/-- The first field of the name says which key a request has, and no other field has a say. If it is
visible, the key is what it says between blanks, unless that is nothing or too long. So a key can
always be kept, sending it again is sending the same key, and blanks around it make no
difference. -/
theorem keys_are_canonical :
    (∀ headers : Http.Headers, (∀ field ∈ headers, field.1.toLower ≠ "idempotency-key") →
      bookingKey headers = .ok none) ∧
    (∀ (before after : Http.Headers) name value,
      (∀ field ∈ before, field.1.toLower ≠ "idempotency-key") → name.toLower = "idempotency-key" →
      bookingKey (before ++ (name, value) :: after) = keyOf value) ∧
    (∀ value, ¬Visible value →
      keyOf value = .error (.badRequest "Idempotency-Key must be visible ASCII")) ∧
    (∀ value, Visible value → ∃ core, Trims Http.isBlank value core ∧
      keyOf value =
        if core = [] then .ok none
        else if 255 < core.length then
          .error (.badRequest "Idempotency-Key must be at most 255 characters")
        else .ok (some (String.ofList (core.map character)))) ∧
    (∀ headers key, bookingKey headers = .ok (some key) →
      Storable key ∧ keyOf (Octets.ofText key) = .ok (some key)) ∧
    (∀ value left right left' right', (∀ b ∈ left ++ right, Http.isBlank b = true) →
      (∀ b ∈ left' ++ right', Http.isBlank b = true) →
      keyOf (left ++ value ++ right) = keyOf (left' ++ value ++ right')) ∧
    "idempotency_key VARCHAR(255)," ∈ Database.Schema.lines := by
  have hlower : "Idempotency-Key".toLower = "idempotency-key" := by decide +kernel
  refine ⟨fun headers h => ?_, fun before after name value hbefore hname => ?_,
    fun value => keyOf_of_not_visible, fun value h => ?_, fun headers key h => ?_,
    fun value left right left' right' h h' => ?_, by decide +kernel⟩
  · exact bookingKey_of_first?_eq_none ((Http.Headers.first?_eq_none_iff hlower).2 h)
  · exact bookingKey_of_first?
      ((Http.Headers.first?_eq_some_iff hlower).2 ⟨before, name, after, rfl, hbefore, hname⟩)
  · exact ⟨_, trims_strip Http.isBlank value, keyOf_of_visible h (trims_strip _ value)⟩
  · cases hfirst : headers.first? "Idempotency-Key" with
    | none =>
      rw [bookingKey_of_first?_eq_none hfirst] at h
      cases h
    | some value =>
      rw [bookingKey_of_first? hfirst] at h
      exact keyOf_ofText_key h
  · obtain ⟨hleft, hright⟩ := List.forall_mem_append.1 h
    obtain ⟨hleft', hright'⟩ := List.forall_mem_append.1 h'
    rw [keyOf_append hleft hright, keyOf_append hleft' hright']

/-- The first of two fields counts, however its name is written and whatever blanks are around. -/
theorem keys_are_canonical_between_blanks :
    bookingKey [("Host", [104]),
      ("IDEMPOTENCY-key",
        List.replicate 4000 9 ++ Octets.ofText "order\t42" ++ List.replicate 4000 32),
      ("idempotency-key", [255])] = .ok (some "order\t42") := by
  obtain ⟨-, hfirst, -, -, -, hblanks, -⟩ := keys_are_canonical
  have hbefore : ∀ field ∈ [("Host", ([104] : Octets))], field.1.toLower ≠ "idempotency-key" := by
    decide +kernel
  have hall : ∀ b ∈ List.replicate 4000 9 ++ List.replicate 4000 32, Http.isBlank b = true := by
    intro b hb
    obtain hb | hb := List.mem_append.1 hb
    · rw [List.eq_of_mem_replicate hb]
      rfl
    · rw [List.eq_of_mem_replicate hb]
      rfl
  have hplain := hblanks (Octets.ofText "order\t42") _ _ [] [] hall nofun
  rw [List.nil_append, List.append_nil] at hplain
  calc
    _ = keyOf (List.replicate 4000 9 ++ Octets.ofText "order\t42" ++ List.replicate 4000 32) :=
      hfirst [_] [_] _ _ hbefore (by decide +kernel)
    _ = keyOf (Octets.ofText "order\t42") := hplain
    _ = .ok (some "order\t42") := by decide +kernel

end Api

end BoxOffice
