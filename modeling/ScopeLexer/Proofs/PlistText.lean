/-
# Property lists are read back

A value is written as lines of elements. Read as marked-up text, the lines give the parts of that value one
after the other, and the parts make up its document. White space between elements says nothing; in an
element that holds a text each character comes back, written as a reference or not.

Key definitions: `docOf`, `Scalar.Exact`, `Value.parts`, `Reads`.
Key theorems: `readValue_parts`, `wholeOf?_toString`, `Reads.escape`, `lines_reads`, `readDocument_render`.
-/
import Mathlib.Data.List.TakeWhile
import ScopeLexer.Plist.Plain
import ScopeLexer.Plist.Printer
import ScopeLexer.Proofs.BoundedDocuments
import ScopeLexer.Proofs.DecimalDigits

namespace ScopeLexer
namespace Plist

open Decimal (fitsWord maxWord)

/-! ### Documents of values -/

mutual

/-- The document of a value. -/
def docOf : Value → Document Scalar
  | .text s => .scalar (.text s)
  | .bool b => .scalar (.bool b)
  | .whole n => .scalar (.whole n)
  | .real d => .scalar (.real d.toFloat)
  | .list items => .list (docsOf items) true
  | .map entries => .map (entryDocs entries) true
  termination_by structural v => v

/-- The documents of several values. -/
def docsOf : List Value → List (Document Scalar)
  | [] => []
  | v :: vs => docOf v :: docsOf vs
  termination_by structural vs => vs

/-- The entries of a map in a document. -/
def entryDocs : List (String × Value) → List (Option Scalar × Document Scalar)
  | [] => []
  | e :: es => entryDoc e :: entryDocs es
  termination_by structural es => es

/-- An entry of a map in a document. -/
def entryDoc : String × Value → Option Scalar × Document Scalar
  | (key, v) => (some (.text key), docOf v)
  termination_by structural e => e

end

/-- A scalar that comes back from its text: no real number, and no whole number out of range. -/
def Scalar.Exact : Scalar → Prop
  | .text _ | .bool _ => True
  | .whole n => fitsWord n
  | .real _ | .date _ | .data _ => False

/-! ### Parts of values -/

mutual

/-- The parts of a value in the order of the text. -/
def Value.parts : Value → List Part
  | .text s => [.scalar (.text s)]
  | .bool b => [.scalar (.bool b)]
  | .whole n => [.scalar (.whole n)]
  | .real d => [.scalar (.real d.toFloat)]
  | .list items => .list :: (itemParts items ++ [.stop])
  | .map entries => .map :: (entriesParts entries ++ [.stop])
  termination_by structural v => v

/-- The parts of items. -/
def itemParts : List Value → List Part
  | [] => []
  | v :: vs => v.parts ++ itemParts vs
  termination_by structural vs => vs

/-- The parts of the entries of a map. -/
def entriesParts : List (String × Value) → List Part
  | [] => []
  | e :: es => entryParts e ++ entriesParts es
  termination_by structural es => es

/-- A key and the parts of its value. -/
def entryParts : String × Value → List Part
  | (key, v) => .scalar (.text key) :: v.parts
  termination_by structural e => e

end

/-- A value begins with a part that is neither the end of a list or map nor a fault. -/
theorem parts_head (v : Value) : ∃ p ps, v.parts = p :: ps ∧ p ≠ .stop ∧ p ≠ .fault := by
  cases v <;> exact ⟨_, _, rfl, nofun, nofun⟩

theorem readItems_cons (fuel : Nat) (v : Value) (ps : List Part) :
    readItems (fuel + 1) (v.parts ++ ps) =
      match readValue fuel (v.parts ++ ps) with
      | (t, some rest) => (t :: (readItems fuel rest).1, (readItems fuel rest).2)
      | (t, none) => ([t], none) := by
  obtain ⟨p, qs, hparts, hstop, -⟩ := parts_head v
  rw [hparts, List.cons_append, readItems.eq_def]
  cases p with
  | stop => exact absurd rfl hstop
  | scalar _ | list | map | fault => rfl

theorem readEntries_cons (fuel : Nat) (key : String) (ps : List Part) :
    readEntries (fuel + 2) (.scalar (.text key) :: ps) =
      match readValue (fuel + 1) ps with
      | (t, some rest) =>
        ((some (.text key), t) :: (readEntries (fuel + 1) rest).1, (readEntries (fuel + 1) rest).2)
      | (t, none) => ([(some (.text key), t)], none) := rfl

mutual

/-- **The parts of a value make up its document.** -/
theorem readValue_parts : ∀ (v : Value) (fuel : Nat) (rest : List Part), 2 * v.parts.length ≤ fuel →
    readValue fuel (v.parts ++ rest) = (docOf v, some rest)
  | v, 0, rest, hfuel => by
    obtain ⟨p, ps, hparts, -⟩ := parts_head v
    rw [hparts] at hfuel
    cases hfuel
  | .text _, fuel + 1, _, _ | .bool _, fuel + 1, _, _ | .whole _, fuel + 1, _, _
  | .real _, fuel + 1, _, _ => rfl
  | .list vs, fuel + 1, rest, hfuel => by
    simp only [Value.parts, List.length_cons, List.length_append, List.length_nil] at hfuel
    have hitems := readItems_parts vs fuel rest (by omega)
    simp only [Value.parts, List.cons_append, List.append_assoc, List.nil_append, readValue, hitems, docOf,
      Option.isSome_some]
  | .map es, fuel + 1, rest, hfuel => by
    simp only [Value.parts, List.length_cons, List.length_append, List.length_nil] at hfuel
    have hentries := readEntries_parts es fuel rest (by omega)
    simp only [Value.parts, List.cons_append, List.append_assoc, List.nil_append, readValue, hentries, docOf,
      Option.isSome_some]

/-- The parts of items make up their documents, up to the end of the list. -/
theorem readItems_parts : ∀ (vs : List Value) (fuel : Nat) (rest : List Part),
    2 * (itemParts vs).length < fuel → readItems fuel (itemParts vs ++ .stop :: rest) = (docsOf vs, some rest)
  | [], fuel + 1, _, _ => rfl
  | v :: vs, fuel + 1, rest, hfuel => by
    obtain ⟨p, ps, hparts, -⟩ := parts_head v
    have hpos : 0 < v.parts.length := hparts ▸ Nat.succ_pos ps.length
    rw [itemParts, List.length_append] at hfuel
    have hv := readValue_parts v fuel (itemParts vs ++ .stop :: rest) (by omega)
    have hvs := readItems_parts vs fuel rest (by omega)
    rw [itemParts, List.append_assoc, readItems_cons, hv]
    simp only [hvs, docsOf]

/-- The parts of entries make up their documents, up to the end of the map. -/
theorem readEntries_parts : ∀ (es : List (String × Value)) (fuel : Nat) (rest : List Part),
    2 * (entriesParts es).length < fuel →
    readEntries fuel (entriesParts es ++ .stop :: rest) = (entryDocs es, some rest)
  | [], fuel + 1, _, _ => rfl
  | (key, v) :: es, fuel + 1, rest, hfuel => by
    rw [entriesParts, entryParts, List.length_append, List.length_cons] at hfuel
    obtain ⟨fuel, rfl⟩ : ∃ k, fuel = k + 1 := ⟨fuel - 1, by omega⟩
    have hv := readValue_parts v (fuel + 1) (entriesParts es ++ .stop :: rest) (by omega)
    have hes := readEntries_parts es (fuel + 1) rest (by omega)
    rw [entriesParts, entryParts, List.append_assoc, List.cons_append, readEntries_cons, hv]
    simp only [hes, entryDocs, entryDoc]

end

theorem treeOf_parts (v : Value) : treeOf v.parts = docOf v := by
  have h := readValue_parts v (2 * v.parts.length + 2) [] (by omega)
  rw [List.append_nil] at h
  rw [treeOf, h]

/-! ### Whole numbers -/

/-- **A whole number of 64 bits is read back.** -/
theorem wholeOf?_toString {k : Int} (h : fitsWord k) : wholeOf? (toString k).toList = some k := by
  have hall : ∀ d ∈ Nat.toDigits 10 k.natAbs, d.isDigit := fun _ =>
    Nat.isDigit_of_mem_toDigits (by decide) (by decide)
  have hvalue : Decimal.valueOf (Nat.toDigits 10 k.natAbs) = k.natAbs := Nat.ofDigitChars_ten_toDigits
  have hbad : ((Nat.toDigits 10 k.natAbs).isEmpty || !(Nat.toDigits 10 k.natAbs).all Char.isDigit) = false := by
    simp only [Bool.or_eq_false_iff, List.isEmpty_eq_false_iff, Bool.not_eq_false', List.all_eq_true]
    exact ⟨Nat.toDigits_ne_nil, hall⟩
  have hsign : Decimal.readSign (toString k).toList = (decide (k < 0), Nat.toDigits 10 k.natAbs) := by
    rw [Decimal.toList_toString]
    by_cases hk : k < 0
    · simp only [hk, ↓reduceIte, decide_true]
      rfl
    · simp only [hk, ↓reduceIte, decide_false, List.nil_append]
      rw [Decimal.readSign.eq_def]
      split
      · cases hall '-' (‹_ = _› ▸ List.mem_cons_self)
      · cases hall '+' (‹_ = _› ▸ List.mem_cons_self)
      · rfl
  -- A sign or a digit stands where the mark of base sixteen would have its letter.
  have hmark : ∀ cs, (toString k).toList ≠ '0' :: 'x' :: cs := by
    intro cs htext
    have hx : 'x' ∈ (toString k).toList := htext ▸ by simp
    rw [Decimal.toList_toString, List.mem_append] at hx
    rcases hx with hx | hx
    · by_cases hk : k < 0 <;> simp [hk] at hx
    · cases hall 'x' hx
  have hresult : (if decide (k < 0) then -(k.natAbs : Int) else k.natAbs) = k := by
    by_cases hk : k < 0
    · simp only [hk, decide_true, ↓reduceIte]
      omega
    · simp only [hk, decide_false, Bool.false_eq_true, ↓reduceIte]
      omega
  rw [wholeOf?]
  · simp only [hsign, hbad, hvalue, hresult, h, Bool.false_eq_true, ↓reduceIte]
  · exact hmark

/-! ### Tags -/

/-- A name in small letters. -/
def Word (name : List Char) : Prop := name ≠ [] ∧ name.all Char.isLower

instance (name : List Char) : Decidable (Word name) := inferInstanceAs (Decidable (_ ∧ _))

/-- The first mark of an end is found. -/
theorem after?_append {name : List Char} (h : ∀ c ∈ name, c ≠ '>') (cs : List Char) :
    after? ['>'] (name ++ '>' :: cs) = some cs := by
  induction name with
  | nil => rfl
  | cons c name ih =>
    obtain ⟨hc, hname⟩ := List.forall_mem_cons.mp h
    have hprefix : ['>'].isPrefixOf? (c :: (name ++ '>' :: cs)) = none :=
      if_neg (by simpa using hc.symm)
    rw [List.cons_append, after?, hprefix]
    exact ih hname

namespace Word

variable {name : List Char} (h : Word name)

include h

theorem ne {c d : Char} (hc : c ∈ name) (hd : ¬d.isLower) : c ≠ d := by
  rintro rfl
  exact hd (List.all_eq_true.mp h.2 c hc)

theorem not_space {c : Char} (hc : c ∈ name) : ¬isTagSpace c := by
  intro hspace
  simp only [isTagSpace, Bool.or_eq_true, beq_iff_eq] at hspace
  rcases hspace with ((rfl | rfl) | rfl) | rfl <;> exact h.ne hc (by decide) rfl

/-- All of a word stands before white space. -/
theorem takeWhile_eq : name.takeWhile (fun c => !isTagSpace c) = name := by
  refine List.takeWhile_eq_self_iff.mpr fun c hc => ?_
  rw [Bool.eq_false_iff.mpr (h.not_space hc)]
  rfl

/-- A word has no prefix. -/
theorem localName_eq : localName name = String.ofList name := by
  have hdrop : name.dropWhile (· != ':') = [] := by
    refine List.dropWhile_eq_nil_iff.mpr fun c hc => ?_
    exact bne_iff_ne.mpr (h.ne hc (by decide))
  rw [localName, hdrop]

theorem tagBody_append (cs : List Char) : tagBody none [] (name ++ cs) = tagBody none name.reverse cs := by
  have general : ∀ name done : List Char, (∀ c ∈ name, c ≠ '>' ∧ ¬(c = '"' ∨ c = '\'')) →
      tagBody none done (name ++ cs) = tagBody none (name.reverse ++ done) cs := by
    intro name
    induction name with
    | nil => exact fun _ _ => rfl
    | cons c name ih =>
      intro done hplain
      obtain ⟨⟨hend, hquote⟩, hname⟩ := List.forall_mem_cons.mp hplain
      rw [List.cons_append, tagBody, if_neg hend, if_neg hquote, ih _ hname, List.reverse_cons,
        List.append_assoc]
      rfl
  rw [general name [] fun c hc => ⟨h.ne hc (by decide), ?_⟩, List.append_nil]
  exact not_or.mpr ⟨h.ne hc (by decide), h.ne hc (by decide)⟩

/-- A tag that begins with a word. -/
theorem next?_tag (cs : List Char) :
    next? ('<' :: (name ++ cs)) = (tagBody none name.reverse cs).map fun r => (tagParts r.1, r.2) := by
  obtain ⟨c, name', rfl⟩ := List.exists_cons_of_ne_nil h.1
  have hhead : ∀ (d : Char) rest, ¬d.isLower → c :: name' ++ cs ≠ d :: rest := fun d rest hd heq =>
    h.ne List.mem_cons_self hd (List.cons.inj heq).1
  rw [next?, h.tagBody_append]
  · exact fun rest => hhead '!' rest (by decide)
  · exact fun rest => hhead '?' rest (by decide)
  · exact fun rest => hhead '/' rest (by decide)

/-- A tag that opens an element. -/
theorem next?_opening (cs : List Char) :
    next? ('<' :: (name ++ '>' :: cs)) = some ([.opening name], cs) := by
  have hparts : tagParts name.reverse = [.opening name] := by
    rw [tagParts, List.reverse_reverse, h.takeWhile_eq]
    intro body hbody
    exact h.ne (c := '/') (List.mem_reverse.mp (hbody ▸ List.mem_cons_self)) (by decide) rfl
  rw [h.next?_tag, tagBody, if_pos rfl, Option.map_some, hparts]

/-- A tag that stands for a whole element. -/
theorem next?_single (cs : List Char) :
    next? ('<' :: (name ++ '/' :: '>' :: cs)) = some ([.opening name, .closing name], cs) := by
  have hparts : tagParts ('/' :: name.reverse) = [.opening name, .closing name] := by
    rw [tagParts, List.reverse_reverse, h.takeWhile_eq]
  rw [h.next?_tag, tagBody, if_neg (by decide), if_neg (by decide), tagBody, if_pos rfl, Option.map_some, hparts]

/-- A tag that closes an element. -/
theorem next?_closing (cs : List Char) :
    next? ('<' :: '/' :: (name ++ '>' :: cs)) = some ([.closing name], cs) := by
  have hend : ∀ c ∈ name, c ≠ '>' := fun c hc => h.ne hc (by decide)
  have htake : (name ++ '>' :: cs).takeWhile (· != '>') = name := by
    rw [List.takeWhile_append_of_pos fun c hc => bne_iff_ne.mpr (hend c hc),
      List.takeWhile_cons_of_neg (by decide), List.append_nil]
  rw [next?, closingTag?, after?_append hend, htake, Text.dropEndWhile_of_forall fun c hc => h.not_space hc]
  rfl

end Word

/-! ### Texts and the parts they stand for -/

/-- The parts that a text stands for, where the elements `names` are open and `content` has been read of one
that holds a text. Any fuel will do that is more than the text is long. -/
def Reads (names : List (List Char)) (content : Option (String × List Char)) (cs : List Char)
    (ps : List Part) : Prop :=
  ∃ ms, (∀ fuel, cs.length < fuel → parts fuel cs = ms) ∧ elements content (matched names ms) = ps

theorem parts_of_next? {piece cs : List Char} {ms : List Markup} (hpiece : piece ≠ [])
    (hnext : next? (piece ++ cs) = some (ms, cs)) (fuel : Nat) :
    parts (fuel + 1) (piece ++ cs) = ms ++ parts fuel cs := by
  have hne : (piece ++ cs).isEmpty = false := by simp [hpiece]
  rw [parts, hne, hnext]
  rfl

namespace Reads

variable {names names' : List (List Char)} {content content' : Option (String × List Char)}
  {cs : List Char} {ps : List Part}

theorem nil : Reads [] none [] [] := by
  refine ⟨[], fun fuel hfuel => ?_, rfl⟩
  obtain ⟨k, rfl⟩ : ∃ k, fuel = k + 1 := ⟨fuel - 1, by omega⟩
  rfl

/-- Markup that is cut off stands for some parts, and the rest of the text for those that follow. -/
theorem step {piece : List Char} (ms : List Markup) (qs : List Part) (hpiece : piece ≠ [])
    (hnext : next? (piece ++ cs) = some (ms, cs))
    (h : ∀ ms', elements content (matched names (ms ++ ms')) = qs ++ elements content' (matched names' ms'))
    (hcs : Reads names' content' cs ps) : Reads names content (piece ++ cs) (qs ++ ps) := by
  obtain ⟨ms', hcut, rfl⟩ := hcs
  refine ⟨ms ++ ms', fun fuel hfuel => ?_, h ms'⟩
  have hlength := List.length_pos_iff.mpr hpiece
  rw [List.length_append] at hfuel
  obtain ⟨k, rfl⟩ : ∃ k, fuel = k + 1 := ⟨fuel - 1, by omega⟩
  rw [parts_of_next? hpiece hnext, hcut k (by omega)]

end Reads

/-! ### Characters -/

/-- A character of a text between tags. -/
def isText (c : Char) : Bool := c != '<' && c != '&'

theorem next?_text {c : Char} (hc : isText c) (cs : List Char) :
    next? (c :: cs) = some ([.text (c :: cs.takeWhile isText)], cs.dropWhile isText) := by
  have hmark : c ≠ '<' ∧ c ≠ '&' := by simpa [isText] using hc
  have hopens : ∀ rest, c :: cs ≠ '<' :: rest := fun rest heq => hmark.1 (List.cons.inj heq).1
  rw [next?]
  · show some ([Markup.text ((c :: cs).takeWhile isText)], (c :: cs).dropWhile isText) = _
    rw [List.takeWhile_cons_of_pos hc, List.dropWhile_cons_of_pos hc]
  · exact fun rest => hopens ('!' :: rest)
  · exact fun rest => hopens ('?' :: rest)
  · exact fun rest => hopens ('/' :: rest)
  · exact hopens
  · exact fun rest heq => hmark.2 (List.cons.inj heq).1

theorem parts_text {c : Char} (hc : isText c) (cs : List Char) (fuel : Nat) :
    parts (fuel + 1) (c :: cs) = .text (c :: cs.takeWhile isText) :: parts fuel (cs.dropWhile isText) := by
  rw [parts, next?_text hc]
  rfl

namespace Reads

variable {names : List (List Char)} {content content' : Option (String × List Char)} {cs : List Char}
  {ps : List Part}

/-- The characters at the head of a text, if there are any, are read as one part. -/
theorem run (h : Reads names content cs ps) : ∃ ms, (∀ fuel, cs.length < fuel →
    parts fuel (cs.dropWhile isText) = ms) ∧
      elements content (.text (cs.takeWhile isText) :: matched names ms) = ps := by
  obtain ⟨ms, hcut, rfl⟩ := h
  have hempty : ∀ ms, elements content (.text [] :: ms) = elements content ms := by
    intro ms
    cases content <;> rfl
  cases cs with
  | nil => exact ⟨ms, hcut, hempty _⟩
  | cons c cs =>
    by_cases hc : isText c
    · rw [List.takeWhile_cons_of_pos hc, List.dropWhile_cons_of_pos hc]
      have hms := hcut (cs.length + 2) (by simp)
      rw [parts_text hc] at hms
      refine ⟨parts (cs.length + 1) (cs.dropWhile isText), fun fuel hfuel => ?_, by rw [← hms]; rfl⟩
      have hmore := hcut (fuel + 1) (by omega)
      rw [parts_text hc, ← hms] at hmore
      exact (List.cons.inj hmore).2
    · rw [List.takeWhile_cons_of_neg hc, List.dropWhile_cons_of_neg hc]
      exact ⟨ms, hcut, hempty _⟩

/-- A character of a text is read by itself, although it becomes one part with those after it. -/
theorem char {c : Char} (hc : isText c)
    (h : ∀ run ms, elements content (.text (c :: run) :: ms) = elements content' (.text run :: ms))
    (hcs : Reads names content' cs ps) : Reads names content (c :: cs) ps := by
  obtain ⟨ms, hrest, rfl⟩ := hcs.run
  refine ⟨.text (c :: cs.takeWhile isText) :: ms, fun fuel hfuel => ?_, h _ _⟩
  rw [List.length_cons] at hfuel
  obtain ⟨k, rfl⟩ : ∃ k, fuel = k + 1 := ⟨fuel - 1, by omega⟩
  rw [parts_text hc, hrest k (by omega)]

/-- White space between elements says nothing. -/
theorem blanks {b : List Char} (hb : ∀ c ∈ b, Text.isSpace c) (hcs : Reads names none cs ps) :
    Reads names none (b ++ cs) ps := by
  induction b with
  | nil => exact hcs
  | cons c b ih =>
    obtain ⟨hc, hb⟩ := List.forall_mem_cons.mp hb
    refine char ?_ (fun run ms => ?_) (ih hb)
    · have hmark : c ≠ '<' ∧ c ≠ '&' := by constructor <;> rintro rfl <;> cases hc
      simpa [isText] using hmark
    · simp only [elements, List.all_cons, hc, Bool.true_and]

/-- An ordinary character is read as it stands. -/
theorem plain {name : String} {c : Char} (hc : isText c) {text : List Char}
    (hcs : Reads names (some (name, c :: text)) cs ps) : Reads names (some (name, text)) (c :: cs) ps := by
  refine char hc (fun run ms => ?_) hcs
  simp only [elements, List.reverse_cons, List.append_assoc, List.singleton_append]

/-- A reference is read as the character that it stands for. -/
theorem reference {name : String} {c : Char} {text : List Char} (mark : List Char)
    (hmark : ∀ cs, next? ('&' :: (mark ++ ';' :: cs)) = some ([.reference mark], cs))
    (hresolve : resolve? mark = some c) (hcs : Reads names (some (name, c :: text)) cs ps) :
    Reads names (some (name, text)) ('&' :: (mark ++ ';' :: cs)) ps := by
  have htext : '&' :: (mark ++ ';' :: cs) = '&' :: (mark ++ [';']) ++ cs := by simp
  rw [htext]
  refine step [.reference mark] [] (List.cons_ne_nil _ _) (htext ▸ hmark cs) (fun ms' => ?_) hcs
  simp only [List.singleton_append, matched, elements, hresolve, List.nil_append]

/-- **A character of a text that is written is read as that character.** -/
theorem escapeChar {name : String} {text : List Char} (c : Char)
    (hcs : Reads names (some (name, c :: text)) cs ps) :
    Reads names (some (name, text)) (escapeChar c ++ cs) ps := by
  rw [Plist.escapeChar.eq_def]
  split
  · exact reference ['l', 't'] (fun _ => rfl) rfl hcs
  · exact reference ['g', 't'] (fun _ => rfl) rfl hcs
  · exact reference ['a', 'm', 'p'] (fun _ => rfl) rfl hcs
  · exact reference ['q', 'u', 'o', 't'] (fun _ => rfl) rfl hcs
  · exact reference ['a', 'p', 'o', 's'] (fun _ => rfl) rfl hcs
  · exact reference ['#', '1', '3'] (fun _ => rfl) rfl hcs
  · refine plain ?_ hcs
    simp_all [isText]

/-- A whole text that is written is read as that text. -/
theorem escape {name : String} (s : List Char) {text : List Char}
    (hcs : Reads names (some (name, s.reverse ++ text)) cs ps) :
    Reads names (some (name, text)) (s.flatMap Plist.escapeChar ++ cs) ps := by
  induction s generalizing text with
  | nil => exact hcs
  | cons c s ih =>
    rw [List.reverse_cons, List.append_assoc] at hcs
    rw [List.flatMap_cons, List.append_assoc]
    exact escapeChar c (ih hcs)

/-! ### Elements -/

/-- **An element that holds a text is read as its scalar.** -/
theorem element {name : String} (hname : Word name.toList) (hholds : holdsText name) {content : String}
    {s : Scalar} (hscalar : scalarOf? name content.toList = some s) (hcs : Reads names none cs ps) :
    Reads names none ((Plist.element name (Plist.escape content)).toList ++ cs) (.scalar s :: ps) := by
  have htext : (Plist.element name (Plist.escape content)).toList ++ cs = '<' :: (name.toList ++ ['>']) ++
      (content.toList.flatMap Plist.escapeChar ++ ('<' :: '/' :: (name.toList ++ ['>']) ++ cs)) := by
    simp [Plist.element, Plist.escape]
  have hlocal : localName name.toList = name := by rw [hname.localName_eq, String.ofList_toList]
  rw [htext]
  have hclose : Reads (name.toList :: names) (some (name, content.toList.reverse))
      ('<' :: '/' :: (name.toList ++ ['>']) ++ cs) (.scalar s :: ps) := by
    refine step [.closing name.toList] [.scalar s] (List.cons_ne_nil _ _) ?_ (fun ms' => ?_) hcs
    · simpa using hname.next?_closing cs
    · simp only [List.singleton_append, matched, ↓reduceIte, elements, List.reverse_reverse, hscalar]
  refine step [.opening name.toList] [] (List.cons_ne_nil _ _) ?_ (fun ms' => ?_)
    (escape content.toList (List.append_nil content.toList.reverse ▸ hclose))
  · simpa using hname.next?_opening _
  · simp only [List.singleton_append, matched, elements, hlocal, hholds, ↓reduceIte, List.nil_append]

end Reads

/-! ### Lines -/

/-- Lines as a text. -/
def textOf (ls : List String) : List Char := ls.flatMap fun l => l.toList ++ ['\n']

theorem textOf_append (ls ls' : List String) : textOf (ls ++ ls') = textOf ls ++ textOf ls' :=
  List.flatMap_append

theorem textOf_intercalate (l : String) (ls : List String) :
    (String.intercalate "\n" (l :: ls) ++ "\n").toList = textOf (l :: ls) := by
  induction ls generalizing l with
  | nil => simp [textOf, String.intercalate_singleton]
  | cons m ls ih =>
    have htail := ih m
    rw [String.toList_append] at htail
    rw [String.intercalate_cons_cons, String.toList_append, String.toList_append, List.append_assoc, htail]
    simp [textOf]

theorem array_word : Word "array".toList := by decide

theorem dict_word : Word "dict".toList := by decide

section Lines

variable {names names' : List (List Char)} {cs : List Char} {ps : List Part} (level : Nat)

/-- A line is read as what stands in it. -/
theorem Reads.line {x : String} {ps : List Part} (h : Reads names none (x.toList ++ '\n' :: cs) ps) :
    Reads names none (textOf [margin level ++ x] ++ cs) ps := by
  have htext : textOf [margin level ++ x] ++ cs = List.replicate level '\t' ++ (x.toList ++ '\n' :: cs) := by
    simp [textOf, margin]
  rw [htext]
  refine .blanks (fun c hc => ?_) h
  rw [(List.mem_replicate.mp hc).2]
  rfl

theorem Reads.lineEnd (h : Reads names none cs ps) : Reads names none ('\n' :: cs) ps :=
  .blanks (b := ['\n']) (by simp; rfl) h

/-- A tag in a line of its own. -/
theorem Reads.tag (ms : List Markup) (qs : List Part) {x : String} (hx : x.toList ≠ [])
    (hnext : ∀ cs, next? (x.toList ++ cs) = some (ms, cs))
    (h : ∀ ms', elements none (matched names (ms ++ ms')) = qs ++ elements none (matched names' ms'))
    (hcs : Reads names' none cs ps) : Reads names none (textOf [margin level ++ x] ++ cs) (qs ++ ps) :=
  .line level (.step ms qs hx (hnext _) h hcs.lineEnd)

/-- A truth value is a tag in a line of its own. -/
theorem bool_reads (b : Bool) (hcs : Reads names none cs ps) :
    Reads names none (textOf ((Value.bool b).lines level) ++ cs) ((Value.bool b).parts ++ ps) := by
  have htrue : Word "true".toList := by decide
  have hfalse : Word "false".toList := by decide
  cases b with
  | true =>
    exact .tag level [.opening "true".toList, .closing "true".toList] [.scalar (.bool true)] (by decide)
      htrue.next?_single (fun _ => rfl) hcs
  | false =>
    exact .tag level [.opening "false".toList, .closing "false".toList] [.scalar (.bool false)] (by decide)
      hfalse.next?_single (fun _ => rfl) hcs

/-- A text in a line of its own, as a value or as a key. -/
theorem text_reads {name : String} (hname : name = "string" ∨ name = "key") (s : String)
    (hcs : Reads names none cs ps) :
    Reads names none (textOf [margin level ++ element name (escape s)] ++ cs) (.scalar (.text s) :: ps) := by
  have hscalar : scalarOf? name s.toList = some (.text s) := by
    rcases hname with rfl | rfl <;> simp only [scalarOf?, String.ofList_toList]
  refine .line level (.element ?_ ?_ hscalar hcs.lineEnd)
  · rcases hname with rfl | rfl <;> decide
  · rcases hname with rfl | rfl <;> decide

/-- Nothing in a whole number has to be written as a reference. -/
theorem escape_toString (n : Int) : escape (toString n) = toString n := by
  have hplain : ∀ c ∈ (toString n).toList, escapeChar c = [c] := by
    intro c hc
    rw [Decimal.toList_toString, List.mem_append] at hc
    have hchar : c = '-' ∨ c.isDigit := by
      refine hc.imp (fun hsign => ?_) (Nat.isDigit_of_mem_toDigits (by decide) (by decide))
      split at hsign
      · exact List.mem_singleton.mp hsign
      · cases hsign
    rw [escapeChar.eq_def]
    split
    case h_7 => rfl
    all_goals
      rcases hchar with hminus | hdigit
      · cases hminus
      · cases hdigit
  rw [escape, List.flatMap_def, List.map_congr_left hplain, ← List.flatMap_def, List.flatMap_singleton',
    String.ofList_toList]

theorem whole_reads {n : Int} (h : fitsWord n) (hcs : Reads names none cs ps) :
    Reads names none (textOf ((Value.whole n).lines level) ++ cs) ((Value.whole n).parts ++ ps) := by
  have hscalar : scalarOf? "integer" (toString n).toList = some (.whole n) := by
    simp only [scalarOf?, wholeOf?_toString h, Option.map_some]
  rw [Value.lines, ← escape_toString n]
  exact .line level (.element (by decide) (by decide) hscalar hcs.lineEnd)

/-- What stands between a tag and the one that closes it is read with its element open. -/
theorem bracket_reads {name opener closer : String} {p : Part} (hname : Word name.toList)
    (hopener : opener.toList = '<' :: (name.toList ++ ['>']))
    (hcloser : closer.toList = '<' :: '/' :: (name.toList ++ ['>']))
    (hbegin : ∀ ms, elements none (.opening name.toList :: ms) = p :: elements none ms)
    (hstop : ∀ ms, elements none (.closing name.toList :: ms) = .stop :: elements none ms)
    {inner : List String} {qs : List Part}
    (hinner : ∀ cs ps, Reads (name.toList :: names) none cs ps →
      Reads (name.toList :: names) none (textOf inner ++ cs) (qs ++ ps))
    (hcs : Reads names none cs ps) :
    Reads names none (textOf ((margin level ++ opener) :: inner ++ [margin level ++ closer]) ++ cs)
      (p :: (qs ++ [.stop]) ++ ps) := by
  have hclose : Reads (name.toList :: names) none (textOf [margin level ++ closer] ++ cs) (.stop :: ps) := by
    refine .tag level [.closing name.toList] [.stop] (by simp [hcloser]) (fun cs => ?_) (fun ms => ?_) hcs
    · simpa [hcloser] using hname.next?_closing cs
    · simp only [List.singleton_append, matched, ↓reduceIte, hstop]
  have hopen : Reads names none (textOf [margin level ++ opener] ++
      (textOf inner ++ (textOf [margin level ++ closer] ++ cs))) (p :: (qs ++ .stop :: ps)) := by
    refine .tag level [.opening name.toList] [p] (by simp [hopener]) (fun cs => ?_) (fun ms => ?_)
      (hinner _ _ hclose)
    · simpa [hopener] using hname.next?_opening cs
    · simp only [List.singleton_append, matched, hbegin]
  simpa [textOf] using hopen

end Lines

mutual

/-- **The lines of a value are read as its parts.** -/
theorem lines_reads : ∀ (v : Value) (level : Nat) (names : List (List Char)) (cs : List Char)
    (ps : List Part), (docOf v).All Scalar.Exact → Reads names none cs ps →
    Reads names none (textOf (v.lines level) ++ cs) (v.parts ++ ps)
  | .text s, level, _, _, _, _, hcs => text_reads level (.inl rfl) s hcs
  | .bool b, level, _, _, _, _, hcs => bool_reads level b hcs
  | .whole n, level, _, _, _, hexact, hcs => by
    cases hexact with
    | scalar h => exact whole_reads level h hcs
  | .real _, _, _, _, _, hexact, _ => by
    cases hexact with
    | scalar h => exact h.elim
  | .list [], level, _, _, _, _, hcs =>
    .tag level [.opening "array".toList, .closing "array".toList] [.list, .stop] (by decide)
      array_word.next?_single (fun _ => rfl) hcs
  | .list (v :: vs), level, _, _, _, hexact, hcs => by
    cases hexact with
    | list hitems =>
      exact bracket_reads level array_word rfl rfl (fun _ => rfl) (fun _ => rfl)
        (fun cs ps => itemLines_reads (v :: vs) (level + 1) _ cs ps hitems) hcs
  | .map [], level, _, _, _, _, hcs =>
    .tag level [.opening "dict".toList, .closing "dict".toList] [.map, .stop] (by decide)
      dict_word.next?_single (fun _ => rfl) hcs
  | .map (e :: es), level, _, _, _, hexact, hcs => by
    cases hexact with
    | map _ hvalues =>
      exact bracket_reads level dict_word rfl rfl (fun _ => rfl) (fun _ => rfl)
        (fun cs ps => entryLines_reads (e :: es) (level + 1) _ cs ps hvalues) hcs

theorem itemLines_reads : ∀ (vs : List Value) (level : Nat) (names : List (List Char)) (cs : List Char)
    (ps : List Part), (∀ t ∈ docsOf vs, t.All Scalar.Exact) → Reads names none cs ps →
    Reads names none (textOf (itemLines level vs) ++ cs) (itemParts vs ++ ps)
  | [], _, _, _, _, _, hcs => hcs
  | v :: vs, level, names, cs, ps, hexact, hcs => by
    obtain ⟨hv, hvs⟩ := List.forall_mem_cons.mp hexact
    rw [itemLines, textOf_append, itemParts, List.append_assoc, List.append_assoc]
    exact lines_reads v level names _ _ hv (itemLines_reads vs level names cs ps hvs hcs)

theorem entryLines_reads : ∀ (es : List (String × Value)) (level : Nat) (names : List (List Char))
    (cs : List Char) (ps : List Part), (∀ e ∈ entryDocs es, e.2.All Scalar.Exact) → Reads names none cs ps →
    Reads names none (textOf (entryLines level es) ++ cs) (entriesParts es ++ ps)
  | [], _, _, _, _, _, hcs => hcs
  | (key, v) :: es, level, names, cs, ps, hexact, hcs => by
    obtain ⟨hv, hes⟩ := List.forall_mem_cons.mp hexact
    have hvalue := lines_reads v level names _ _ hv (entryLines_reads es level names cs ps hes hcs)
    have hkey := text_reads level (.inr rfl) key hvalue
    simpa [textOf, entryLines, keyLines, entriesParts, entryParts] using hkey

end

/-! ### Whole texts -/

/-- A tag at the beginning of a line. -/
theorem tag_reads {names names' : List (List Char)} {cs : List Char} {ps : List Part} (ms : List Markup)
    {x : String} (hx : x.toList ≠ []) (hnext : ∀ cs, next? (x.toList ++ cs) = some (ms, cs))
    (h : ∀ ms', elements none (matched names (ms ++ ms')) = elements none (matched names' ms'))
    (hcs : Reads names' none cs ps) : Reads names none (textOf [x] ++ cs) ps := by
  have htag := Reads.tag 0 ms [] hx hnext h hcs
  simpa [textOf, margin] using htag

theorem toList_render (v : Value) :
    (v.render ++ "\n").toList = textOf head ++ (textOf (v.lines 0) ++ textOf ["</plist>"]) := by
  rw [← textOf_append, ← textOf_append, ← List.append_assoc]
  exact textOf_intercalate _ _

/-- The lines before and after a value say nothing. -/
theorem render_reads {v : Value} (h : (docOf v).All Scalar.Exact) :
    Reads [] none (v.render ++ "\n").toList v.parts := by
  have hplist : Word "plist".toList := by decide
  have hend : Reads ["plist".toList] none (textOf ["</plist>"] ++ []) [] :=
    tag_reads [.closing "plist".toList] (by decide) hplist.next?_closing (fun _ => rfl) .nil
  have hvalue := lines_reads v 0 _ _ _ h hend
  have hhead : Reads [] none (textOf head ++ (textOf (v.lines 0) ++ (textOf ["</plist>"] ++ [])))
      (v.parts ++ []) := by
    have hlines : head = [head[0]] ++ ([head[1]] ++ [head[2]]) := rfl
    rw [hlines, textOf_append, textOf_append, List.append_assoc, List.append_assoc]
    refine tag_reads [.prolog] (by decide) (fun _ => rfl) (fun _ => rfl) ?_
    refine tag_reads [.prolog] (by decide) (fun _ => rfl) (fun _ => rfl) ?_
    exact tag_reads [.opening "plist".toList] (by decide) (fun _ => rfl) (fun _ => rfl) hvalue
  rw [List.append_nil, List.append_nil] at hhead
  rw [toList_render]
  exact hhead

/-- **A value is read back from its text.** -/
theorem readDocument_render {v : Value} (h : (docOf v).All Scalar.Exact) :
    readDocument (v.render ++ "\n").toList = docOf v := by
  obtain ⟨ms, hcut, hparts⟩ := render_reads h
  have hmarkup : markup (v.render ++ "\n").toList = matched [] ms := by
    rw [markup]
    · rw [hcut _ (Nat.lt_succ_self _)]
    · intro cs heq
      rw [toList_render] at heq
      cases (List.cons.inj heq).1
  have hplain : isPlain (matched [] ms) = false := by
    obtain ⟨p, ps, hhead, -, hfault⟩ := parts_head v
    rw [isPlain, hparts, hhead]
    cases p with
    | fault => exact absurd rfl hfault
    | scalar _ | list | map | stop => rfl
  rw [readDocument, hmarkup, hplain, hparts]
  exact treeOf_parts v

end Plist
end ScopeLexer
