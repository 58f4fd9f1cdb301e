import BoxOffice.Json.Document
import BoxOffice.Json.Value
import BoxOffice.Proofs.DecimalTexts
import Mathlib.Tactic.IntervalCases

set_option autoImplicit false

namespace BoxOffice.Json

mutual

def document : Json → Document
  | null => .null
  | bool value => .bool value
  | int value => .number (toString value).toList
  | text value => .text (.legible value)
  | array items => .array (documents items) true
  | object members => .object (memberDocuments members) true
termination_by structural value => value

def documents : List Json → List Document
  | [] => []
  | item :: rest => item.document :: documents rest
termination_by structural items => items

def memberDocuments : List (String × Json) → List (Option String × Document)
  | [] => []
  | member :: rest => memberDocument member :: memberDocuments rest
termination_by structural members => members

def memberDocument : String × Json → Option String × Document
  | (name, value) => (some name, value.document)
termination_by structural member => member

end

/-- A value is due, or the end of an array that holds none. -/
def Expected.isValue : Expected → Bool
  | value | itemOrEnd => true
  | _ => false

def Expected.isName : Expected → Bool
  | name | nameOrEnd => true
  | _ => false

namespace Document

def scan (state : Scanner × Builder) (text : List Char) : Scanner × Builder :=
  (text.flatMap String.utf8EncodeChar).foldl feed state

variable {state : Scanner × Builder} {b : Builder} {c : Char} {text rest : List Char}

theorem scan_append : scan state (text ++ rest) = scan (scan state text) rest := by
  simp only [scan, List.flatMap_append, List.foldl_append]

theorem scan_cons : scan state (c :: rest) = scan (scan state [c]) rest :=
  (scan_append : scan state ([c] ++ rest) = _)

/-- A quoted text in which nothing has been amiss; its octets are in reverse. -/
def inText (reversed : Octets) : Scanner := .text ⟨reversed, true, none, .plain⟩

variable {reversed more : Octets}

theorem feed_plain (h : ∀ x ∈ more, x ≠ 34 ∧ x ≠ 92 ∧ ¬x < 32) :
    more.foldl feed (inText reversed, b) = (inText (more.reverse ++ reversed), b) := by
  induction more generalizing reversed with
  | nil => rfl
  | cons x more ih =>
    obtain ⟨hquote, hescape, hcontrol⟩ := h x List.mem_cons_self
    have hfeed : feed (inText reversed, b) x = (inText (x :: reversed), b) := by
      simp [feed, inText, Scanner.step, OpenText.step, OpenText.push, OpenText.settle, hquote,
        hescape, hcontrol]
    rw [List.foldl_cons, hfeed, ih fun y hy => h y (List.mem_cons_of_mem _ hy), List.reverse_cons,
      List.append_assoc]
    rfl

theorem plain_ofNat {n : Nat} (hn : n < 256) (hquote : n ≠ 34) (hescape : n ≠ 92)
    (hcontrol : 32 ≤ n) :
    UInt8.ofNat n ≠ 34 ∧ UInt8.ofNat n ≠ 92 ∧ ¬UInt8.ofNat n < 32 := by
  have hback : (UInt8.ofNat n).toNat = n := UInt8.toNat_ofNat_of_lt' hn
  refine ⟨fun h => hquote ?_, fun h => hescape ?_, fun h => ?_⟩
  · rw [← hback, h]
    rfl
  · rw [← hback, h]
    rfl
  · rw [UInt8.lt_iff_toNat_lt, hback] at h
    exact absurd hcontrol (Nat.not_le.2 h)

theorem plain_octets (hquote : c ≠ '"') (hescape : c ≠ '\\') (hcontrol : ¬c.toNat < 32) :
    ∀ x ∈ String.utf8EncodeChar c, x ≠ 34 ∧ x ≠ 92 ∧ ¬x < 32 := by
  have hq : c.val.toNat ≠ 34 := fun h => hquote (Char.toNat_inj.1 h)
  have he : c.val.toNat ≠ 92 := fun h => hescape (Char.toNat_inj.1 h)
  have hc : 32 ≤ c.val.toNat := Nat.le_of_not_lt hcontrol
  intro x hx
  simp only [String.utf8EncodeChar] at hx
  split_ifs at hx
  all_goals
    simp only [List.mem_cons, List.not_mem_nil, or_false] at hx
    rcases hx with rfl | rfl | rfl | rfl <;> apply plain_ofNat <;> omega

theorem scan_code {n : Nat} (hn : n < 32) :
    scan (inText reversed, b) ['\\', 'u', '0', '0', hexDigit (n / 16), hexDigit (n % 16)] =
      (inText ((String.utf8EncodeChar (Char.ofNat n)).reverse ++ reversed), b) := by
  interval_cases n <;> rfl

theorem scan_escape (c : Char) : scan (inText reversed, b) (escape c) =
    (inText ((String.utf8EncodeChar c).reverse ++ reversed), b) := by
  have hof : ∀ {n : Nat}, c.toNat = n → c = Char.ofNat n := fun h => h ▸ (Char.ofNat_toNat c).symm
  unfold escape
  split_ifs with hquote hescape h8 h9 h10 h12 h13 hcontrol
  · rw [hquote]
    rfl
  · rw [hescape]
    rfl
  · rw [hof h8]
    rfl
  · rw [hof h9]
    rfl
  · rw [hof h10]
    rfl
  · rw [hof h12]
    rfl
  · rw [hof h13]
    rfl
  · rw [scan_code hcontrol, Char.ofNat_toNat]
  · rw [scan, List.flatMap_singleton]
    exact feed_plain (plain_octets hquote hescape hcontrol)

theorem scan_escapes (text : List Char) : scan (inText reversed, b) (text.flatMap escape) =
    (inText ((text.flatMap String.utf8EncodeChar).reverse ++ reversed), b) := by
  induction text generalizing reversed with
  | nil => rfl
  | cons c rest ih =>
    rw [List.flatMap_cons, scan_append, scan_escape, ih, List.flatMap_cons, List.reverse_append,
      List.append_assoc]

theorem scan_quote (text : String) :
    scan (.between, b) (quote text) = (.between, b.step (.text (.legible text))) := by
  have hopen : scan (.between, b) ['"'] = (inText [], b) := rfl
  have hread : (OpenText.mk (Octets.ofText text).reverse true none .plain).reading =
      .legible text := by
    simp [OpenText.reading, Octets.toText?_ofText]
  rw [quote, scan_cons, hopen, scan_append, scan_escapes, List.append_nil, ← hread]
  rfl

/-- Whatever may follow a value finds the builder there, even if the scanner has still to end a
number. -/
structure Comes (state : Scanner × Builder) (b : Builder) : Prop where
  before {x : UInt8} (h : x = 44 ∨ x = 93 ∨ x = 125) : feed state x = feed (.between, b) x
  atEnd : state.1.atEnd.toList.foldl Builder.step state.2 = b

theorem comes_between (b : Builder) : Comes (.between, b) b := ⟨fun _ => rfl, rfl⟩

variable {frames : List Frame}

theorem Comes.scan_comma (h : Comes state b) : scan state [','] = feed (.between, b) 44 :=
  h.before (.inl rfl)

theorem Comes.scan_closeArray {items : List Document}
    (h : Comes state (.open .commaOrEnd (.array items :: frames))) :
    scan state [']'] = (.between, Builder.deliver (.array items.reverse true) frames) :=
  h.before (.inr (.inl rfl))

theorem Comes.scan_closeObject {members : List (Option String × Document)}
    (h : Comes state (.open .commaOrEnd (.object members :: frames))) :
    scan state ['}'] = (.between, Builder.deliver (.object members.reverse true) frames) :=
  h.before (.inr (.inr rfl))

theorem exists_ofNat_of_isDigit (h : c.isDigit = true) :
    ∃ n, 48 ≤ n ∧ n ≤ 57 ∧ c = Char.ofNat n := by
  obtain ⟨hfirst, hlast⟩ := Decimal.isDigit_iff.1 h
  exact ⟨c.toNat, hfirst, hlast, (Char.ofNat_toNat c).symm⟩

theorem scan_digit {reversed : List Char} (h : c.isDigit = true) :
    scan (.number .whole reversed, b) [c] = (.number .whole (c :: reversed), b) := by
  obtain ⟨n, hfirst, hlast, rfl⟩ := exists_ofNat_of_isDigit h
  interval_cases n <;> rfl

theorem scan_digits {reversed digits : List Char} (h : ∀ c ∈ digits, c.isDigit = true) :
    scan (.number .whole reversed, b) digits =
      (.number .whole (digits.reverse ++ reversed), b) := by
  induction digits generalizing reversed with
  | nil => rfl
  | cons c digits ih =>
    rw [scan_cons, scan_digit (h c List.mem_cons_self),
      ih fun d hd => h d (List.mem_cons_of_mem _ hd), List.reverse_cons, List.append_assoc]
    rfl

theorem scan_firstDigit (h : c.isDigit = true) :
    scan (.between, b) [c] = (.number (if c = '0' then .zero else .whole) [c], b) := by
  obtain ⟨n, hfirst, hlast, rfl⟩ := exists_ofNat_of_isDigit h
  interval_cases n <;> rfl

theorem scan_digitAfterSign (h : c.isDigit = true) : scan (.number .sign ['-'], b) [c] =
    (.number (if c = '0' then .zero else .whole) [c, '-'], b) := by
  obtain ⟨n, hfirst, hlast, rfl⟩ := exists_ofNat_of_isDigit h
  interval_cases n <;> rfl

theorem scan_natural {s : Scanner} {reversed : List Char}
    (hs : ∀ {c}, c.isDigit = true →
      scan (s, b) [c] = (.number (if c = '0' then .zero else .whole) (c :: reversed), b))
    (n : Nat) : ∃ part, (part = .zero ∨ part = .whole) ∧
      scan (s, b) (Nat.toDigits 10 n) =
        (.number part ((Nat.toDigits 10 n).reverse ++ reversed), b) := by
  obtain ⟨c, rest, hdigits⟩ := Decimal.exists_toDigits n
  have hall : ∀ d ∈ c :: rest, d.isDigit = true := fun d hd =>
    Decimal.isDigit_of_mem (hdigits ▸ hd)
  rw [hdigits, scan_cons, hs (hall c List.mem_cons_self)]
  by_cases hc : c = '0'
  · subst hc
    obtain rfl := Decimal.eq_zero_of_head hdigits
    obtain rfl : [] = rest := (List.cons.inj ((Nat.toDigits_zero 10).symm.trans hdigits)).2
    exact ⟨.zero, .inl rfl, rfl⟩
  · refine ⟨.whole, .inr rfl, ?_⟩
    rw [if_neg hc, scan_digits fun d hd => hall d (List.mem_cons_of_mem _ hd), List.reverse_cons,
      List.append_assoc]
    rfl

theorem comes_number {part : NumberPart} (h : part = .zero ∨ part = .whole) (reversed : List Char) :
    Comes (.number part reversed, b) (b.step (.number reversed.reverse)) := by
  constructor
  · rintro x (rfl | rfl | rfl) <;> rcases h with rfl | rfl <;> rfl
  · rcases h with rfl | rfl <;> rfl

theorem comes_int (n : Int) : Comes (scan (.between, b) (toString n).toList)
    (b.step (.number (toString n).toList)) := by
  rw [Decimal.toList_toString]
  split
  · have hsign : scan (.between, b) ['-'] = (.number .sign ['-'], b) := rfl
    obtain ⟨part, hpart, hscan⟩ := scan_natural (b := b) scan_digitAfterSign n.natAbs
    rw [scan_cons, hsign, hscan]
    simpa using comes_number hpart ((Nat.toDigits 10 n.natAbs).reverse ++ ['-'])
  · obtain ⟨part, hpart, hscan⟩ := scan_natural (b := b) scan_firstDigit n.natAbs
    rw [hscan]
    simpa using comes_number hpart (Nat.toDigits 10 n.natAbs).reverse

variable {e : Expected}

theorem step_value (he : e.isValue = true) {lexeme : Lexeme} (h : lexeme ≠ .closeArray) :
    Builder.step (.open e frames) lexeme = Builder.value frames lexeme := by
  cases e <;> simp_all [Expected.isValue, Builder.step]

theorem step_name (he : e.isName = true) {lexeme : Lexeme} (h : lexeme ≠ .closeObject) :
    Builder.step (.open e frames) lexeme = Builder.name frames lexeme := by
  cases e <;> simp_all [Expected.isName, Builder.step]

mutual

theorem comes_value (value : Json) (frames : List Frame) {e : Expected}
    (he : e.isValue = true) :
    Comes (scan (.between, .open e frames) value.chars)
      (Builder.deliver value.document frames) := by
  cases value with
  | null =>
    have hscan : scan (.between, .open e frames) (chars .null) =
        (.between, Builder.step (.open e frames) .null) := rfl
    rw [hscan, step_value he (by simp)]
    exact comes_between _
  | bool value =>
    have hscan : scan (.between, .open e frames) (chars (.bool value)) =
        (.between, Builder.step (.open e frames) (.bool value)) := by
      cases value <;> rfl
    rw [hscan, step_value he (by simp)]
    exact comes_between _
  | int n =>
    have hint := comes_int (b := .open e frames) n
    rw [step_value he (by simp)] at hint
    exact hint
  | text value =>
    rw [chars, scan_quote, step_value he (by simp)]
    exact comes_between _
  | array items =>
    have hopen : scan (.between, .open e frames) ['['] =
        (.between, Builder.step (.open e frames) .openArray) := rfl
    have hitems := comes_items items [] frames (rfl : Expected.isValue .itemOrEnd = true)
    rw [chars, scan_cons, hopen, step_value he (by simp), scan_append]
    cases items with
    | nil => exact comes_between _
    | cons item rest =>
      rw [Builder.value, (hitems nofun).scan_closeArray, List.append_nil, List.reverse_reverse]
      exact comes_between _
  | object members =>
    have hopen : scan (.between, .open e frames) ['{'] =
        (.between, Builder.step (.open e frames) .openObject) := rfl
    have hmembers := comes_members members [] frames (rfl : Expected.isName .nameOrEnd = true)
    rw [chars, scan_cons, hopen, step_value he (by simp), scan_append]
    cases members with
    | nil => exact comes_between _
    | cons member rest =>
      rw [Builder.value, (hmembers nofun).scan_closeObject, List.append_nil, List.reverse_reverse]
      exact comes_between _
termination_by structural value

theorem comes_items (items : List Json) (acc : List Document) (frames : List Frame)
    {e : Expected} (he : e.isValue = true) (hne : items ≠ []) :
    Comes (scan (.between, .open e (.array acc :: frames)) (itemChars items))
      (.open .commaOrEnd (.array ((documents items).reverse ++ acc) :: frames)) := by
  cases items with
  | nil => exact absurd rfl hne
  | cons item rest =>
    have hitem := comes_value item (.array acc :: frames) he
    have hrest := comes_items rest (item.document :: acc) frames
      (rfl : Expected.isValue .value = true)
    rw [documents, List.reverse_cons, List.append_assoc]
    cases rest with
    | nil => exact hitem
    | cons next rest =>
      rw [itemChars, scan_append, scan_cons, hitem.scan_comma]
      · exact hrest nofun
      · nofun
termination_by structural items

theorem comes_members (members : List (String × Json)) (acc : List (Option String × Document))
    (frames : List Frame) {e : Expected} (he : e.isName = true) (hne : members ≠ []) :
    Comes (scan (.between, .open e (.object acc :: frames)) (memberChars members))
      (.open .commaOrEnd (.object ((memberDocuments members).reverse ++ acc) :: frames)) := by
  cases members with
  | nil => exact absurd rfl hne
  | cons member rest =>
    have hmember := comes_member member acc frames he
    have hrest := comes_members rest (memberDocument member :: acc) frames
      (rfl : Expected.isName .name = true)
    rw [memberDocuments, List.reverse_cons, List.append_assoc]
    cases rest with
    | nil => exact hmember
    | cons next rest =>
      rw [memberChars, scan_append, scan_cons, hmember.scan_comma]
      · exact hrest nofun
      · nofun
termination_by structural members

theorem comes_member (member : String × Json) (acc : List (Option String × Document))
    (frames : List Frame) {e : Expected} (he : e.isName = true) :
    Comes (scan (.between, .open e (.object acc :: frames)) (pairChars member))
      (.open .commaOrEnd (.object (memberDocument member :: acc) :: frames)) := by
  obtain ⟨name, value⟩ := member
  have hvalue := comes_value value (.member acc (some name) :: frames)
    (rfl : Expected.isValue .value = true)
  have hcolon : scan (.between, .open .colon (.member acc (some name) :: frames)) [':'] =
      (.between, .open .value (.member acc (some name) :: frames)) := rfl
  rw [pairChars, scan_append, scan_quote, step_name he (by simp), scan_cons]
  exact hcolon ▸ hvalue
termination_by structural member

end

theorem ofOctets_write (value : Json) :
    ofOctets (Octets.ofText value.write) = (value.document, true) := by
  have hcomes := comes_value value [] (rfl : Expected.isValue .value = true)
  have htext : (Octets.ofText value.write).foldl feed (.between, .start) =
      scan (.between, .open .value []) value.chars := by
    rw [Octets.ofText, toList_write]
    rfl
  unfold ofOctets
  rw [htext]
  -- Nothing follows, so a value that is a number is ended by the end of the text.
  exact congrArg Builder.finish hcomes.atEnd

end Document

end BoxOffice.Json
