/-
# CSON text tells values apart

Two values have one text only if they are alike: equal, with the members of objects in order and numbers
compared by their texts. The text can be taken apart in one way only. What stands in quotes ends at the first
quote that nothing escapes, and a number ends with its line. A list ends at a bracket further out than its
items, and an object at a line further out than its keys, so no depth of nesting is mistaken for another.

Key definitions: `Json.Value.alike`, `Cson.Outside`, `Cson.Told`, `Cson.ItemsTold`, `Cson.BodyTold`.
Key theorems: `Cson.quoted_append_inj`, `Cson.indent_append_inj`, `Cson.told`, `Cson.render_eq_iff`.
-/
import ScopeLexer.Cson
import ScopeLexer.Proofs.DecimalDigits

namespace ScopeLexer

namespace Json

/-! ### Values that are alike -/

mutual

/-- Equality of values with the members of objects in order; of numbers only the texts are compared. -/
def Value.alike : Value → Value → Bool
  | .null, .null => true
  | .bool a, .bool b => a == b
  | .number a, .number b => a.text == b.text
  | .string a, .string b => a == b
  | .array as, .array bs => alikeItems as bs
  | .object as, .object bs => alikeMembers as bs
  | _, _ => false
  termination_by structural v => v

def alikeItems : List Value → List Value → Bool
  | [], [] => true
  | a :: as, b :: bs => a.alike b && alikeItems as bs
  | _, _ => false
  termination_by structural vs => vs

def alikeMembers : List (String × Value) → List (String × Value) → Bool
  | [], [] => true
  | m :: ms, n :: ns => alikeMember m n && alikeMembers ms ns
  | _, _ => false
  termination_by structural ms => ms

def alikeMember : String × Value → String × Value → Bool
  | (k, a), (l, b) => k == l && a.alike b
  termination_by structural m => m

end

/-! ### Numbers -/

/-- A character that a number may be written with. -/
def isNumeral (c : Char) : Bool := c.isDigit || ['-', '+', '.', 'e'].contains c

/-- A text that may be that of a number. -/
def Numeral (cs : List Char) : Prop := ∀ c ∈ cs, isNumeral c

instance (cs : List Char) : Decidable (Numeral cs) :=
  decidable_of_iff (cs.all isNumeral = true) List.all_eq_true

theorem Numeral.append {cs ds : List Char} (hc : Numeral cs) (hd : Numeral ds) : Numeral (cs ++ ds) := by
  intro c h
  rcases List.mem_append.mp h with h | h
  · exact hc c h
  · exact hd c h

theorem numeral_toDigits (n : Nat) : Numeral (Nat.toDigits 10 n) := by
  intro c h
  rw [isNumeral, Nat.isDigit_of_mem_toDigits (by decide) (by decide) h, Bool.true_or]

theorem numeral_zeros (n : Nat) : Numeral (Decimal.zeros n) := by
  intro c h
  rw [(List.mem_replicate.mp h).2]
  decide

theorem numeral_spread (c : Nat) (e : Int) :
    Numeral (Decimal.spread c e).1 ∧ Numeral (Decimal.spread c e).2 := by
  unfold Decimal.spread
  split
  · exact ⟨(numeral_toDigits c).append (numeral_zeros _), nofun⟩
  · have hall : Numeral (Decimal.zeros ((-e).toNat + 1 - (Nat.toDigits 10 c).length) ++ Nat.toDigits 10 c) :=
      (numeral_zeros _).append (numeral_toDigits c)
    exact ⟨fun d h => hall d (List.mem_of_mem_take h), fun d h => hall d (List.mem_of_mem_drop h)⟩

theorem numeral_doubleText (d : Decimal.Double) : Numeral (doubleText d).toList := by
  have hsign : ∀ b : Bool, Numeral (if b then "-" else "").toList := by decide
  have hrepr : ∀ n : Nat, (toString n).toList = Nat.toDigits 10 n := fun _ => Nat.toList_repr
  unfold doubleText
  generalize Decimal.shortest d = s
  dsimp only
  split
  · rw [String.toList_append]
    exact (hsign _).append (by decide)
  split
  · obtain ⟨hwhole, hpart⟩ := numeral_spread s.1 s.2
    simp only [String.toList_append, String.toList_ofList]
    refine (((hsign _).append hwhole).append (by decide)).append ?_
    split
    · decide
    · rwa [String.toList_ofList]
  · simp only [String.toList_append]
    refine ((((hsign _).append ?_).append (by decide)).append ?_).append ?_
    · have hdigits := numeral_toDigits s.1
      split
      · decide
      · rename_i c hds
        rw [hds] at hdigits
        simpa using hdigits
      · rename_i c cs _ hds
        rw [hds] at hdigits
        obtain ⟨hc, hcs⟩ := List.forall_mem_cons.mp hdigits
        simp only [String.toList_append, String.toList_singleton, String.toList_ofList]
        exact (Numeral.append (List.forall_mem_singleton.mpr hc) (by decide)).append hcs
    · split <;> decide
    · rw [hrepr]
      exact numeral_toDigits _

theorem numeral_text (n : Number) : Numeral n.text.toList := by
  cases n with
  | whole n =>
    rw [Number.text, Decimal.toList_toString]
    refine Numeral.append ?_ (numeral_toDigits _)
    split <;> decide
  | double d => exact numeral_doubleText d

theorem text_ne_nil (n : Number) : n.text.toList ≠ [] := by
  cases n with
  | whole n =>
    rw [Number.text, Decimal.toList_toString]
    exact List.append_ne_nil_of_right_ne_nil _ Nat.toDigits_ne_nil
  | double d =>
    rw [Number.text, doubleText]
    dsimp only
    split
    · simp
    split
    · simp
    · simp

end Json

/-! ### Texts in quotes -/

namespace Text

/-- Only as many characters are looked at as there are digits. -/
theorem hexValue?_append {count : Nat} {ds : List Char} (h : ds.length = count) (value : Nat) (cs : List Char) :
    hexValue? count value (ds ++ cs) = hexValue? count value ds := by
  induction count generalizing ds value with
  | zero => rw [hexValue?, hexValue?]
  | succ count ih =>
    obtain ⟨d, ds, rfl⟩ := List.exists_cons_of_length_eq_add_one h
    rw [List.cons_append, hexValue?, hexValue?]
    exact congrArg _ (funext fun d => ih (Nat.succ.inj h) _)

end Text

namespace Cson

open Json (Value Number alikeItems alikeMembers alikeMember)

/-- The character at the head of what stands in quotes, and the rest. -/
def unquoted : List Char → Option (Char × List Char)
  | [] => none
  | '\\' :: cs =>
    match cs with
    | 'n' :: cs => some ('\n', cs)
    | 'r' :: cs => some ('\r', cs)
    | 't' :: cs => some ('\t', cs)
    | 'u' :: cs => (Text.hexValue? 4 0 cs).map fun n => (Char.ofNat n, cs.drop 4)
    | c :: cs => some (c, cs)
    | [] => none
  | c :: cs => some (c, cs)

theorem fourDigits_control : ∀ n < 0xA0,
    (fourDigits n).length = 4 ∧ Text.hexValue? 4 0 (fourDigits n) = some n := by decide +kernel

theorem lt_of_isControl {c : Char} (h : Text.isControl c) : c.toNat < 0xA0 := by
  simp only [Text.isControl, Bool.or_eq_true, Bool.and_eq_true, decide_eq_true_eq] at h
  omega

/-- A character in quotes is read as that character. -/
theorem unquoted_quotedChar (c : Char) (cs : List Char) : unquoted (quotedChar c ++ cs) = some (c, cs) := by
  unfold quotedChar
  split
  · rfl
  · rfl
  · rfl
  · rfl
  · rfl
  split
  · rename_i hcontrol
    obtain ⟨hlength, hvalue⟩ := fourDigits_control c.toNat (lt_of_isControl hcontrol)
    show (Text.hexValue? 4 0 (fourDigits c.toNat ++ cs)).map
      (fun n => (Char.ofNat n, (fourDigits c.toNat ++ cs).drop 4)) = _
    rw [Text.hexValue?_append hlength, hvalue, List.drop_left' hlength, Option.map_some, Char.ofNat_toNat]
  · rename_i hslash _ _ _ _ _
    unfold unquoted
    split <;> simp_all

theorem quotedChar_append_inj {c d : Char} {cs ds : List Char} (h : quotedChar c ++ cs = quotedChar d ++ ds) :
    c = d ∧ cs = ds := by
  have hread := unquoted_quotedChar c cs
  rw [h, unquoted_quotedChar] at hread
  obtain ⟨rfl, rfl⟩ := Prod.mk.inj (Option.some.inj hread)
  exact ⟨rfl, rfl⟩

/-- A quote that closes a text begins no character of it. -/
theorem quotedChar_append_ne (c : Char) (cs ds : List Char) : quotedChar c ++ cs ≠ '\'' :: ds := by
  unfold quotedChar
  split
  case h_6 hquote _ _ _ =>
    split
    · simp
    · exact fun h => hquote (List.cons.inj h).1
  all_goals simp

/-- What stands in quotes ends at the closing quote. -/
theorem inQuotes_append_inj {as bs cs ds : List Char}
    (h : as.flatMap quotedChar ++ '\'' :: cs = bs.flatMap quotedChar ++ '\'' :: ds) : as = bs ∧ cs = ds := by
  induction as generalizing bs with
  | nil =>
    cases bs with
    | nil => exact ⟨rfl, (List.cons.inj h).2⟩
    | cons b bs =>
      rw [List.flatMap_cons, List.append_assoc] at h
      exact absurd h.symm (quotedChar_append_ne b _ _)
  | cons a as ih =>
    rw [List.flatMap_cons, List.append_assoc] at h
    cases bs with
    | nil => exact absurd h (quotedChar_append_ne a _ _)
    | cons b bs =>
      rw [List.flatMap_cons, List.append_assoc] at h
      obtain ⟨rfl, hrest⟩ := quotedChar_append_inj h
      obtain ⟨rfl, rfl⟩ := ih hrest
      exact ⟨rfl, rfl⟩

theorem quoted_append_inj {s t : String} {cs ds : List Char}
    (h : (quoted s).toList ++ cs = (quoted t).toList ++ ds) : s = t ∧ cs = ds := by
  simp only [quoted, String.toList_ofList, List.cons_append, List.append_assoc, List.nil_append] at h
  obtain ⟨hst, hrest⟩ := inQuotes_append_inj (List.cons.inj h).2
  exact ⟨String.toList_inj.mp hst, hrest⟩

/-! ### Lines -/

theorem toList_indent (level : Nat) : (indent level).toList = List.replicate (2 * level) ' ' := by
  rw [indent, String.toList_ofList]

theorem blanks_append_inj {m n : Nat} {c d : Char} {cs ds : List Char} (hc : c ≠ ' ') (hd : d ≠ ' ')
    (h : List.replicate m ' ' ++ c :: cs = List.replicate n ' ' ++ d :: ds) : m = n ∧ c = d ∧ cs = ds := by
  induction m generalizing n with
  | zero =>
    cases n with
    | zero => exact ⟨rfl, List.cons.inj h⟩
    | succ n => exact absurd (List.cons.inj h).1 hc
  | succ m ih =>
    cases n with
    | zero => exact absurd (List.cons.inj h).1.symm hd
    | succ n =>
      obtain ⟨hmn, hrest⟩ := ih (List.cons.inj h).2
      exact ⟨congrArg Nat.succ hmn, hrest⟩

/-- A line has one level, that of its first character. -/
theorem indent_append_inj {m n : Nat} {c d : Char} {cs ds : List Char} (hc : c ≠ ' ') (hd : d ≠ ' ')
    (h : (indent m).toList ++ c :: cs = (indent n).toList ++ d :: ds) : m = n ∧ c = d ∧ cs = ds := by
  rw [toList_indent, toList_indent] at h
  obtain ⟨hmn, hrest⟩ := blanks_append_inj hc hd h
  exact ⟨by omega, hrest⟩

/-- A text ends with its line. -/
theorem line_append_inj {as bs cs ds : List Char} (has : '\n' ∉ as) (hbs : '\n' ∉ bs)
    (h : as ++ '\n' :: cs = bs ++ '\n' :: ds) : as = bs ∧ cs = ds := by
  rcases List.append_eq_append_iff.mp h with ⟨es, rfl, hes⟩ | ⟨es, rfl, hes⟩
  · cases es with
    | nil => exact ⟨(List.append_nil as).symm, (List.cons.inj hes).2⟩
    | cons e es =>
      obtain rfl : '\n' = e := (List.cons.inj hes).1
      exact absurd (List.mem_append_right as List.mem_cons_self) hbs
  · cases es with
    | nil => exact ⟨List.append_nil bs, (List.cons.inj hes).2.symm⟩
    | cons e es =>
      obtain rfl : '\n' = e := (List.cons.inj hes).1
      exact absurd (List.mem_append_right bs List.mem_cons_self) has

/-- What follows the members of an object: no key at their level or a deeper one. -/
def Outside (level : Nat) (cs : List Char) : Prop :=
  ∀ n, level ≤ n → ∀ ds, cs ≠ (indent n).toList ++ '\'' :: ds

theorem outside_nil (level : Nat) : Outside level [] := by
  intro n _ ds h
  simp at h

theorem Outside.succ {level : Nat} {cs : List Char} (h : Outside level cs) : Outside (level + 1) cs :=
  fun n hn => h n (Nat.le_of_succ_le hn)

/-- A line further out goes on with no key. -/
theorem outside_line {m level : Nat} (h : m < level) {c : Char} (hc : c ≠ ' ') (cs : List Char) :
    Outside level ((indent m).toList ++ c :: cs) := by
  intro n hn ds heq
  obtain ⟨rfl, -⟩ := indent_append_inj hc (by decide) heq
  omega

/-! ### Members -/

theorem toList_quoted (s : String) :
    (quoted s).toList = '\'' :: (s.toList.flatMap quotedChar ++ ['\'']) := by
  rw [quoted, String.toList_ofList]
  rfl

/-- What follows the key of a member. -/
def afterKey (level : Nat) : Value → List Char
  | .object (m :: ms) => '\n' :: (body (level + 1) (m :: ms)).toList
  | v => ' ' :: ((value level v).toList ++ ['\n'])

theorem toList_member (level : Nat) (key : String) (v : Value) :
    (member level (key, v)).toList =
      (indent level).toList ++ ((quoted key).toList ++ ':' :: afterKey level v) := by
  cases v with
  | object ms =>
    cases ms with
    | nil =>
      show (indent level ++ quoted key ++ ":" ++ (" " ++ value level (.object []) ++ "\n")).toList = _
      simp [afterKey]
    | cons m ms =>
      show (indent level ++ quoted key ++ ":" ++ ("\n" ++ body (level + 1) (m :: ms))).toList = _
      simp [afterKey]
  | _ =>
    show (indent level ++ quoted key ++ ":" ++ (" " ++ value level _ ++ "\n")).toList = _
    simp [afterKey]

theorem toList_body_nil (level : Nat) : (body level []).toList = [] := rfl

theorem toList_body_cons (level : Nat) (m : String × Value) (ms : List (String × Value)) :
    (body level (m :: ms)).toList = (member level m).toList ++ (body level ms).toList := by
  rw [body, String.toList_append]

theorem toList_items_nil (level : Nat) : (items level []).toList = [] := rfl

theorem toList_items_cons (level : Nat) (v : Value) (vs : List Value) :
    (items level (v :: vs)).toList =
      (indent level).toList ++ ((value level v).toList ++ '\n' :: (items level vs).toList) := by
  simp [items]

theorem toList_array (level : Nat) (v : Value) (vs : List Value) :
    (value level (.array (v :: vs))).toList =
      '[' :: '\n' :: ((items (level + 1) (v :: vs)).toList ++ ((indent level).toList ++ [']'])) := by
  simp [value]

theorem toList_object (level : Nat) (m : String × Value) (ms : List (String × Value)) :
    (value level (.object (m :: ms))).toList =
      '\x7b' :: '\n' :: ((body (level + 1) (m :: ms)).toList ++ ((indent level).toList ++ ['\x7d'])) := by
  simp [value]

/-- The line of a member begins with its key. -/
theorem exists_member (level : Nat) (m : String × Value) :
    ∃ cs, (member level m).toList = (indent level).toList ++ '\'' :: cs := by
  obtain ⟨key, v⟩ := m
  rw [toList_member, toList_quoted]
  exact ⟨_, rfl⟩

theorem Outside.body {level : Nat} {cs : List Char} (h : Outside level cs) (ms : List (String × Value)) :
    Outside (level + 1) ((body level ms).toList ++ cs) := by
  cases ms with
  | nil => simpa [Cson.body] using h.succ
  | cons m ms =>
    obtain ⟨ds, hds⟩ := exists_member level m
    rw [toList_body_cons, hds, List.append_assoc, List.append_assoc]
    exact outside_line (Nat.lt_succ_self level) (by decide) _

/-! ### Values -/

/-- What a value is. -/
inductive Shape where
  | null | bool | number | string | array | object
  deriving DecidableEq

def shape : Value → Shape
  | .null => .null
  | .bool _ => .bool
  | .number _ => .number
  | .string _ => .string
  | .array _ => .array
  | .object _ => .object

/-- What begins with a character. -/
def shapeAt? (c : Char) : Option Shape :=
  if c = 'n' then some .null
  else if c = 't' ∨ c = 'f' then some .bool
  else if c = '\'' then some .string
  else if c = '[' then some .array
  else if c = '\x7b' then some .object
  else if Json.isNumeral c then some .number
  else none

theorem shapeAt?_of_isNumeral {c : Char} (h : Json.isNumeral c) : shapeAt? c = some .number := by
  have hnone : ['n', 't', 'f', '\'', '[', '\x7b'].any Json.isNumeral = false := by decide
  have hother : ∀ d ∈ ['n', 't', 'f', '\'', '[', '\x7b'], c ≠ d := by
    rintro d hd rfl
    exact List.any_eq_false.mp hnone c hd h
  simp only [List.forall_mem_cons] at hother
  simp [shapeAt?, hother, h]

/-- The first character of a value shows what it is. -/
theorem exists_value (level : Nat) (v : Value) :
    ∃ c cs, (value level v).toList = c :: cs ∧ shapeAt? c = some (shape v) := by
  cases v with
  | null => exact ⟨'n', ['u', 'l', 'l'], by simp [value], rfl⟩
  | bool b =>
    cases b with
    | false => exact ⟨'f', ['a', 'l', 's', 'e'], by simp [value], rfl⟩
    | true => exact ⟨'t', ['r', 'u', 'e'], by simp [value], rfl⟩
  | number n =>
    obtain ⟨c, cs, hcs⟩ := List.exists_cons_of_ne_nil (Json.text_ne_nil n)
    refine ⟨c, cs, by rw [value, hcs], shapeAt?_of_isNumeral (Json.numeral_text n c ?_)⟩
    rw [hcs]
    exact List.mem_cons_self
  | string s => exact ⟨_, _, by rw [value, toList_quoted], rfl⟩
  | array vs =>
    cases vs with
    | nil => exact ⟨'[', [']'], by simp [value], rfl⟩
    | cons v vs => exact ⟨_, _, toList_array level v vs, rfl⟩
  | object ms =>
    cases ms with
    | nil => exact ⟨'\x7b', ['\x7d'], by simp [value], rfl⟩
    | cons m ms => exact ⟨_, _, toList_object level m ms, rfl⟩

theorem exists_items (level : Nat) (v : Value) (vs : List Value) :
    ∃ c cs, c ≠ ' ' ∧ (items level (v :: vs)).toList = (indent level).toList ++ c :: cs := by
  obtain ⟨c, cs, hcs, hc⟩ := exists_value level v
  refine ⟨c, cs ++ '\n' :: (items level vs).toList, ?_, by rw [toList_items_cons, hcs]; rfl⟩
  rintro rfl
  cases hc

theorem shape_eq {level : Nat} {v w : Value} {cs ds : List Char}
    (h : (value level v).toList ++ cs = (value level w).toList ++ ds) : shape v = shape w := by
  obtain ⟨c, cs', hc, hv⟩ := exists_value level v
  obtain ⟨d, ds', hd, hw⟩ := exists_value level w
  rw [hc, hd] at h
  obtain rfl : c = d := (List.cons.inj h).1
  exact Option.some.inj (hv.symm.trans hw)

/-! ### Readings -/

/-- A value is told by its text, up to the end of the line. -/
def Told (v : Value) : Prop := ∀ level w cs ds,
  (value level v).toList ++ '\n' :: cs = (value level w).toList ++ '\n' :: ds → v.alike w ∧ cs = ds

/-- The items of a list are told by their lines, up to the bracket that closes the list. -/
def ItemsTold (vs : List Value) : Prop := ∀ level ws cs ds,
  (items (level + 1) vs).toList ++ ((indent level).toList ++ ']' :: cs) =
    (items (level + 1) ws).toList ++ ((indent level).toList ++ ']' :: ds) → alikeItems vs ws ∧ cs = ds

/-- The members of an object are told by their lines, up to a line further out. -/
def BodyTold (ms : List (String × Value)) : Prop := ∀ level ns cs ds, Outside level cs → Outside level ds →
  (body level ms).toList ++ cs = (body level ns).toList ++ ds → alikeMembers ms ns ∧ cs = ds

/-- The value of a member is told by what follows the key. -/
def ToldAfterKey (v : Value) : Prop := ∀ level w cs ds, Outside (level + 1) cs → Outside (level + 1) ds →
  afterKey level v ++ cs = afterKey level w ++ ds → v.alike w ∧ cs = ds

def MemberTold (m : String × Value) : Prop := ∀ level n cs ds,
  Outside (level + 1) cs → Outside (level + 1) ds →
  (member level m).toList ++ cs = (member level n).toList ++ ds → alikeMember m n ∧ cs = ds

theorem told_null : Told .null := by
  intro level w cs ds h
  cases w with
  | null => exact ⟨rfl, by simpa [value] using h⟩
  | _ => cases shape_eq h

theorem told_bool (a : Bool) : Told (.bool a) := by
  intro level w cs ds h
  cases w with
  | bool b => cases a <;> cases b <;> simp_all [value, Value.alike]
  | _ => cases shape_eq h

/-- A number has no end of a line in it. -/
theorem told_number (a : Number) : Told (.number a) := by
  intro level w cs ds h
  cases w with
  | number b =>
    have hline : ∀ n : Number, '\n' ∉ n.text.toList := fun n hn =>
      absurd (Json.numeral_text n '\n' hn) (by decide)
    rw [value, value] at h
    obtain ⟨htext, hrest⟩ := line_append_inj (hline a) (hline b) h
    exact ⟨by simpa [Value.alike] using String.toList_inj.mp htext, hrest⟩
  | _ => cases shape_eq h

theorem told_string (s : String) : Told (.string s) := by
  intro level w cs ds h
  cases w with
  | string t =>
    rw [value, value] at h
    obtain ⟨rfl, hrest⟩ := quoted_append_inj h
    exact ⟨by simp [Value.alike], (List.cons.inj hrest).2⟩
  | _ => cases shape_eq h

theorem told_array {vs : List Value} (hvs : ItemsTold vs) : Told (.array vs) := by
  intro level w cs ds h
  cases w with
  | array ws =>
    rw [Value.alike]
    cases vs with
    | nil =>
      cases ws with
      | nil => exact ⟨rfl, by simpa [value] using h⟩
      | cons w ws => simp [value] at h
    | cons v vs =>
      cases ws with
      | nil => simp [value] at h
      | cons w ws =>
        simp only [toList_array, List.cons_append, List.append_assoc, List.cons.injEq, true_and,
          List.nil_append] at h
        obtain ⟨halike, hrest⟩ := hvs level (w :: ws) _ _ h
        exact ⟨halike, (List.cons.inj hrest).2⟩
  | _ => cases shape_eq h

theorem told_object {ms : List (String × Value)} (hms : BodyTold ms) : Told (.object ms) := by
  intro level w cs ds h
  cases w with
  | object ns =>
    rw [Value.alike]
    cases ms with
    | nil =>
      cases ns with
      | nil => exact ⟨rfl, by simpa [value] using h⟩
      | cons n ns => simp [value] at h
    | cons m ms =>
      cases ns with
      | nil => simp [value] at h
      | cons n ns =>
        simp only [toList_object, List.cons_append, List.append_assoc, List.cons.injEq, true_and,
          List.nil_append] at h
        -- The brace that closes the object stands further out than its keys.
        have hout : ∀ es, Outside (level + 1) ((indent level).toList ++ '\x7d' :: es) :=
          outside_line (Nat.lt_succ_self level) (by decide)
        obtain ⟨halike, hrest⟩ := hms (level + 1) (n :: ns) _ _ (hout _) (hout _) h
        obtain ⟨-, -, hrest⟩ := indent_append_inj (by decide) (by decide) hrest
        exact ⟨halike, (List.cons.inj hrest).2⟩
  | _ => cases shape_eq h

theorem itemsTold_nil : ItemsTold [] := by
  intro level ws cs ds h
  cases ws with
  | nil =>
    have hrest : ']' :: cs = ']' :: ds := List.append_cancel_left (List.append_cancel_left h)
    exact ⟨rfl, (List.cons.inj hrest).2⟩
  | cons w ws =>
    -- The bracket that closes the list stands further out than an item.
    obtain ⟨c, es, hc, hes⟩ := exists_items (level + 1) w ws
    rw [toList_items_nil, List.nil_append, hes, List.append_assoc] at h
    obtain ⟨hlevel, -⟩ := indent_append_inj (by decide) hc h
    omega

theorem itemsTold_cons {v : Value} {vs : List Value} (hv : Told v) (hvs : ItemsTold vs) :
    ItemsTold (v :: vs) := by
  intro level ws cs ds h
  cases ws with
  | nil =>
    obtain ⟨c, es, hc, hes⟩ := exists_items (level + 1) v vs
    rw [hes, toList_items_nil, List.nil_append, List.append_assoc] at h
    obtain ⟨hlevel, -⟩ := indent_append_inj hc (by decide) h
    omega
  | cons w ws =>
    simp only [toList_items_cons, List.append_assoc, List.cons_append] at h
    obtain ⟨hvw, hrest⟩ := hv _ w _ _ (List.append_cancel_left h)
    obtain ⟨hvws, hrest⟩ := hvs level ws _ _ hrest
    exact ⟨by rw [alikeItems, hvw, hvws]; rfl, hrest⟩

theorem bodyTold_nil : BodyTold [] := by
  intro level ns cs ds hcs hds h
  cases ns with
  | nil => exact ⟨rfl, List.append_cancel_left h⟩
  | cons n ns =>
    obtain ⟨es, hes⟩ := exists_member level n
    rw [toList_body_nil, List.nil_append, toList_body_cons, hes, List.append_assoc, List.append_assoc] at h
    exact absurd h (hcs level (Nat.le_refl level) _)

theorem bodyTold_cons {m : String × Value} {ms : List (String × Value)} (hm : MemberTold m)
    (hms : BodyTold ms) : BodyTold (m :: ms) := by
  intro level ns cs ds hcs hds h
  cases ns with
  | nil =>
    obtain ⟨es, hes⟩ := exists_member level m
    rw [toList_body_nil, List.nil_append, toList_body_cons, hes, List.append_assoc, List.append_assoc] at h
    exact absurd h.symm (hds level (Nat.le_refl level) _)
  | cons n ns =>
    rw [toList_body_cons, toList_body_cons, List.append_assoc, List.append_assoc] at h
    obtain ⟨hmn, hrest⟩ := hm level n _ _ (hcs.body ms) (hds.body ns) h
    obtain ⟨hmns, hrest⟩ := hms level ns _ _ hcs hds hrest
    exact ⟨by rw [alikeMembers, hmn, hmns]; rfl, hrest⟩

theorem memberTold {key : String} {v : Value} (hv : ToldAfterKey v) : MemberTold (key, v) := by
  rintro level ⟨key', w⟩ cs ds hcs hds h
  simp only [toList_member, List.append_assoc, List.cons_append] at h
  obtain ⟨rfl, hrest⟩ := quoted_append_inj (List.append_cancel_left h)
  obtain ⟨hvw, hrest⟩ := hv level w cs ds hcs hds (List.cons.inj hrest).2
  exact ⟨by rw [alikeMember, hvw]; simp, hrest⟩

/-- What follows the key of a member stands in its line, or the value is an object with members. -/
theorem afterKey_cases (v : Value) :
    (∀ level, afterKey level v = ' ' :: ((value level v).toList ++ ['\n'])) ∨
      ∃ m ms, v = .object (m :: ms) := by
  cases v with
  | object ms =>
    cases ms with
    | nil => exact .inl fun _ => rfl
    | cons m ms => exact .inr ⟨m, ms, rfl⟩
  | _ => exact .inl fun _ => rfl

theorem Told.afterKey {v : Value} (hv : Told v)
    (hline : ∀ level, Cson.afterKey level v = ' ' :: ((value level v).toList ++ ['\n'])) : ToldAfterKey v := by
  intro level w cs ds hcs hds h
  rw [hline] at h
  rcases afterKey_cases w with hw | ⟨n, ns, rfl⟩
  · rw [hw, List.cons_append, List.cons_append, List.append_assoc, List.append_assoc] at h
    exact hv level w cs ds (List.cons.inj h).2
  · cases (List.cons.inj h).1

theorem toldAfterKey_object {ms : List (String × Value)} (hms : BodyTold ms) : ToldAfterKey (.object ms) := by
  cases ms with
  | nil => exact (told_object hms).afterKey fun _ => rfl
  | cons m ms =>
    intro level w cs ds hcs hds h
    rcases afterKey_cases w with hw | ⟨n, ns, rfl⟩
    · rw [hw] at h
      cases (List.cons.inj h).1
    · obtain ⟨halike, hrest⟩ := hms (level + 1) (n :: ns) cs ds hcs hds (List.cons.inj h).2
      exact ⟨by rw [Value.alike, halike], hrest⟩

mutual

theorem told : ∀ v : Value, Told v ∧ ToldAfterKey v
  | .null => ⟨told_null, told_null.afterKey fun _ => rfl⟩
  | .bool b => ⟨told_bool b, (told_bool b).afterKey fun _ => rfl⟩
  | .number n => ⟨told_number n, (told_number n).afterKey fun _ => rfl⟩
  | .string s => ⟨told_string s, (told_string s).afterKey fun _ => rfl⟩
  | .array vs => ⟨told_array (itemsTold vs), (told_array (itemsTold vs)).afterKey fun _ => rfl⟩
  | .object ms => ⟨told_object (bodyTold ms), toldAfterKey_object (bodyTold ms)⟩
  termination_by structural v => v

theorem itemsTold : ∀ vs : List Value, ItemsTold vs
  | [] => itemsTold_nil
  | v :: vs => itemsTold_cons (told v).1 (itemsTold vs)
  termination_by structural vs => vs

theorem bodyTold : ∀ ms : List (String × Value), BodyTold ms
  | [] => bodyTold_nil
  | m :: ms => bodyTold_cons (membersTold m) (bodyTold ms)
  termination_by structural ms => ms

theorem membersTold : ∀ m : String × Value, MemberTold m
  | (_, v) => memberTold (told v).2
  termination_by structural m => m

end

/-! ### One text for values that are alike -/

mutual

/-- Only the texts of numbers are written, so values that are alike have one text. -/
theorem value_of_alike : ∀ v w : Value, v.alike w → ∀ level,
    value level v = value level w ∧ afterKey level v = afterKey level w
  | .null => by
    intro w h level
    cases w with
    | null => exact ⟨rfl, rfl⟩
    | _ => cases h
  | .bool a => by
    intro w h level
    cases w with
    | bool b =>
      obtain rfl : a = b := by simpa [Value.alike] using h
      exact ⟨rfl, rfl⟩
    | _ => cases h
  | .number a => by
    intro w h level
    cases w with
    | number b =>
      have htext : a.text = b.text := by simpa [Value.alike] using h
      simp [value, afterKey, htext]
    | _ => cases h
  | .string s => by
    intro w h level
    cases w with
    | string t =>
      obtain rfl : s = t := by simpa [Value.alike] using h
      exact ⟨rfl, rfl⟩
    | _ => cases h
  | .array vs => by
    intro w h level
    cases w with
    | array ws =>
      have hitems := items_of_alike vs ws h
      cases vs with
      | nil =>
        cases ws with
        | nil => exact ⟨rfl, rfl⟩
        | cons w ws => cases h
      | cons v vs =>
        cases ws with
        | nil => cases h
        | cons w ws => simp only [value, afterKey, hitems, and_self]
    | _ => cases h
  | .object ms => by
    intro w h level
    cases w with
    | object ns =>
      have hbody := body_of_alike ms ns h
      cases ms with
      | nil =>
        cases ns with
        | nil => exact ⟨rfl, rfl⟩
        | cons n ns => cases h
      | cons m ms =>
        cases ns with
        | nil => cases h
        | cons n ns => simp only [value, afterKey, hbody, and_self]
    | _ => cases h
  termination_by structural v => v

theorem items_of_alike : ∀ vs ws : List Value, alikeItems vs ws → ∀ level, items level vs = items level ws
  | [] => by
    intro ws h level
    cases ws with
    | nil => rfl
    | cons w ws => cases h
  | v :: vs => by
    intro ws h level
    cases ws with
    | nil => cases h
    | cons w ws =>
      obtain ⟨hv, hvs⟩ := Bool.and_eq_true_iff.mp h
      rw [items, items, (value_of_alike v w hv level).1, items_of_alike vs ws hvs level]
  termination_by structural vs => vs

theorem body_of_alike : ∀ ms ns : List (String × Value), alikeMembers ms ns → ∀ level,
    body level ms = body level ns
  | [] => by
    intro ns h level
    cases ns with
    | nil => rfl
    | cons n ns => cases h
  | m :: ms => by
    intro ns h level
    cases ns with
    | nil => cases h
    | cons n ns =>
      obtain ⟨hm, hms⟩ := Bool.and_eq_true_iff.mp h
      rw [body, body, member_of_alike m n hm level, body_of_alike ms ns hms level]
  termination_by structural ms => ms

theorem member_of_alike : ∀ m n : String × Value, alikeMember m n → ∀ level,
    member level m = member level n
  | (key, v) => by
    rintro ⟨key', w⟩ h level
    obtain ⟨hkey, hv⟩ := Bool.and_eq_true_iff.mp h
    obtain rfl : key = key' := by simpa using hkey
    rw [← String.toList_inj, toList_member, toList_member, (value_of_alike v w hv level).2]
  termination_by structural m => m

end

/-! ### Documents -/

/-- The members of an object are no line of another value: there is a colon behind a key. -/
theorem body_ne_value (ms : List (String × Value)) (w : Value) :
    (body 0 ms).toList ≠ (value 0 w).toList ++ ['\n'] := by
  intro h
  cases ms with
  | nil => simp [body] at h
  | cons m ms =>
    obtain ⟨key, v⟩ := m
    simp only [toList_body_cons, toList_member, toList_indent, Nat.mul_zero, List.replicate_zero,
      List.nil_append, List.append_assoc, List.cons_append] at h
    -- The quote of the first key leaves only a text, and a text ends with its line.
    have hstring : some (shape w) = some Shape.string := by
      obtain ⟨c, cs, hcs, hc⟩ := exists_value 0 w
      rw [toList_quoted, hcs] at h
      obtain rfl : '\'' = c := (List.cons.inj h).1
      exact hc.symm
    cases w with
    | string s =>
      rw [value] at h
      obtain ⟨-, hcolon⟩ := quoted_append_inj h
      cases (List.cons.inj hcolon).1
    | _ => cases hstring

/-- At the top only an object goes without braces. -/
theorem toList_render {v : Value} (h : shape v ≠ .object) :
    (render v).toList = (value 0 v).toList ++ ['\n'] := by
  cases v with
  | object ms => exact absurd rfl h
  | _ => exact String.toList_append

theorem alike_of_render_eq {v w : Value} (h : render v = render w) : v.alike w := by
  rw [← String.toList_inj] at h
  by_cases hv : shape v = .object
  · cases v with
    | object ms =>
      by_cases hw : shape w = .object
      · cases w with
        | object ns =>
          refine (bodyTold ms 0 ns [] [] (outside_nil 0) (outside_nil 0) ?_).1
          rw [List.append_nil, List.append_nil]
          exact h
        | _ => cases hw
      · rw [toList_render hw] at h
        exact absurd h (body_ne_value ms w)
    | _ => cases hv
  · rw [toList_render hv] at h
    by_cases hw : shape w = .object
    · cases w with
      | object ns => exact absurd h.symm (body_ne_value ns v)
      | _ => cases hw
    · rw [toList_render hw] at h
      exact ((told v).1 0 w [] [] h).1

theorem render_of_alike {v w : Value} (h : v.alike w) : render v = render w := by
  have htext := (value_of_alike v w h 0).1
  have hshape : shape v = shape w := shape_eq (congrArg (·.toList ++ []) htext)
  by_cases hv : shape v = .object
  · cases v with
    | object ms =>
      cases w with
      | object ns => exact body_of_alike ms ns h 0
      | _ => cases h
    | _ => cases hv
  · rw [← String.toList_inj, toList_render hv, toList_render (hshape ▸ hv), htext]

/-- **The text of a value tells it from all others**, with numbers compared by their texts. -/
theorem render_eq_iff (v w : Value) : render v = render w ↔ v.alike w :=
  ⟨alike_of_render_eq, render_of_alike⟩

end Cson
end ScopeLexer
