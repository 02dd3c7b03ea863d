/-
# Values that are read are sound

Where any value may stand, what is read is a value whose whole numbers have 64 bits and whose objects have
no key twice. This holds in all formats, although YAML and property lists know other scalars and keys.

Key definitions: `Value.Throughout`, `Value.Sound`.
Key theorems: `Json.valueOf?_sound`, `Source.plistValue_sound`, `Source.yamlValue_sound`,
`Members.ofEntries_eq`.
-/
import ScopeLexer.Proofs.BoundedDocuments
import ScopeLexer.Source.Plist
import ScopeLexer.Source.Yaml

namespace ScopeLexer
namespace Json

/-- The values right in a value. -/
def Value.parts : Value → List Value
  | .array items => items
  | .object members => members.map (·.2)
  | .null | .bool _ | .number _ | .string _ => []

/-- A property of a value and of all values in it. -/
inductive Value.Throughout (P : Value → Prop) : Value → Prop
  | intro {v : Value} (here : P v) (inner : ∀ w ∈ v.parts, Throughout P w) : Throughout P v

namespace Value.Throughout

variable {P Q : Value → Prop} {v : Value}

theorem here (h : v.Throughout P) : P v := by
  obtain ⟨here, -⟩ := h
  exact here

theorem inner (h : v.Throughout P) : ∀ w ∈ v.parts, w.Throughout P := by
  obtain ⟨-, inner⟩ := h
  exact inner

/-- What holds of a value without parts holds throughout. -/
theorem of_leaf (h : P v) (hparts : v.parts = []) : v.Throughout P := .intro h (by simp [hparts])

theorem items {vs : List Value} (h : (Value.array vs).Throughout P) : ∀ v ∈ vs, v.Throughout P := h.inner

theorem members {ms : Members} (h : (Value.object ms).Throughout P) : ∀ m ∈ ms, m.2.Throughout P :=
  fun _ hm => h.inner _ (List.mem_map_of_mem hm)

theorem and (hp : v.Throughout P) (hq : v.Throughout Q) : v.Throughout fun w => P w ∧ Q w := by
  induction hp with
  | intro here _ ih => exact .intro ⟨here, hq.here⟩ fun w hw => ih w hw (hq.inner w hw)

end Value.Throughout

mutual

/-- All values in a value, the value itself first. -/
def Value.within : Value → List Value
  | .array items => .array items :: itemsWithin items
  | .object members => .object members :: membersWithin members
  | .null => [.null]
  | .bool b => [.bool b]
  | .number n => [.number n]
  | .string s => [.string s]
  termination_by structural v => v

/-- All values in several values. -/
def itemsWithin : List Value → List Value
  | [] => []
  | v :: vs => v.within ++ itemsWithin vs
  termination_by structural vs => vs

/-- All values in some members. -/
def membersWithin : List (String × Value) → List Value
  | [] => []
  | m :: ms => memberWithin m ++ membersWithin ms
  termination_by structural ms => ms

/-- All values in a member. -/
def memberWithin : String × Value → List Value
  | (_, v) => v.within
  termination_by structural m => m

end

mutual

/-- What holds of all values in a value holds throughout. -/
theorem Value.throughout_of_within {P : Value → Prop} : ∀ v : Value, (∀ w ∈ v.within, P w) → v.Throughout P
  | .array items, h => by
    rw [Value.within, List.forall_mem_cons] at h
    exact .intro h.1 (throughout_of_itemsWithin items h.2)
  | .object members, h => by
    rw [Value.within, List.forall_mem_cons] at h
    exact .intro h.1 (List.forall_mem_map.mpr (throughout_of_membersWithin members h.2))
  | .null, h | .bool _, h | .number _, h | .string _, h => .of_leaf (h _ (List.mem_singleton_self _)) rfl

theorem throughout_of_itemsWithin {P : Value → Prop} : ∀ vs : List Value, (∀ w ∈ itemsWithin vs, P w) →
    ∀ v ∈ vs, v.Throughout P
  | [], _ => nofun
  | v :: vs, h => by
    rw [itemsWithin, List.forall_mem_append] at h
    exact List.forall_mem_cons.mpr ⟨v.throughout_of_within h.1, throughout_of_itemsWithin vs h.2⟩

theorem throughout_of_membersWithin {P : Value → Prop} : ∀ ms : List (String × Value),
    (∀ w ∈ membersWithin ms, P w) → ∀ m ∈ ms, m.2.Throughout P
  | [], _ => nofun
  | (_, v) :: ms, h => by
    rw [membersWithin, List.forall_mem_append] at h
    exact List.forall_mem_cons.mpr ⟨v.throughout_of_within h.1, throughout_of_membersWithin ms h.2⟩

end

def Value.isNull : Value → Bool
  | .null => true
  | .bool _ | .number _ | .string _ | .array _ | .object _ => false

def Value.isDouble : Value → Bool
  | .number (.double _) => true
  | .number (.whole _) | .null | .bool _ | .string _ | .array _ | .object _ => false

/-- A whole number of 64 bits, an object in which no key stands twice, or another value. -/
def Value.Regular : Value → Prop
  | .number n => n.Fits
  | .object ms => (ms.map (·.1)).Nodup
  | .null | .bool _ | .string _ | .array _ => True

/-- A value that is regular in all its parts. -/
def Value.Sound (v : Value) : Prop := v.Throughout Value.Regular

/-! ### Members -/

namespace Members

variable {ms : Members} {key : String} {v : Value}

theorem mem_insert {m : String × Value} : ∀ {ms : Members}, m ∈ ms.insert key v → m = (key, v) ∨ m ∈ ms
  | [], h => .inl (List.mem_singleton.mp h)
  | (k, w) :: rest, h => by
    rw [insert] at h
    split at h
    · rename_i heq
      exact (List.mem_cons.mp h).imp (fun h => heq ▸ h) (List.mem_cons_of_mem _)
    · rcases List.mem_cons.mp h with rfl | h
      · exact .inr List.mem_cons_self
      · exact (mem_insert h).imp_right (List.mem_cons_of_mem _)

/-- One more member does not make a key stand twice. -/
theorem nodup_insert : ∀ {ms : Members}, (ms.map (·.1)).Nodup → ((ms.insert key v).map (·.1)).Nodup
  | [], _ => List.pairwise_singleton _ _
  | (k, w) :: rest, h => by
    obtain ⟨hk, hrest⟩ := List.nodup_cons.mp h
    rw [insert]
    split
    · exact h
    · rename_i hne
      refine List.nodup_cons.mpr ⟨fun hmem => ?_, nodup_insert hrest⟩
      obtain ⟨m, hm, heq⟩ := List.mem_map.mp hmem
      rcases mem_insert hm with rfl | hm
      · exact hne heq.symm
      · exact hk (heq ▸ List.mem_map_of_mem hm)

/-- A member with a new key comes last. -/
theorem insert_of_not_mem : ∀ {ms : Members}, key ∉ ms.map (·.1) → ms.insert key v = ms ++ [(key, v)]
  | [], _ => rfl
  | (k, w) :: rest, h => by
    obtain ⟨hne, hrest⟩ := List.ne_and_not_mem_of_not_mem_cons h
    rw [insert, if_neg (Ne.symm hne), insert_of_not_mem hrest, List.cons_append]

/-- What has been put together has each key once, and its members are among those that were given. -/
theorem foldl_insert (es : List (String × Value)) (hms : (ms.map (·.1)).Nodup) :
    ((es.foldl (fun ms e => ms.insert e.1 e.2) ms).map (·.1)).Nodup ∧
      ∀ m ∈ es.foldl (fun ms e => ms.insert e.1 e.2) ms, m ∈ ms ∨ m ∈ es := by
  induction es generalizing ms with
  | nil => exact ⟨hms, fun m hm => .inl hm⟩
  | cons e es ih =>
    obtain ⟨hnodup, hmem⟩ := ih (nodup_insert hms)
    refine ⟨hnodup, fun m hm => ?_⟩
    rcases hmem m hm with hm | hm
    · rcases mem_insert hm with rfl | hm
      · exact .inr List.mem_cons_self
      · exact .inl hm
    · exact .inr (List.mem_cons_of_mem _ hm)

theorem nodup_ofEntries (es : List (String × Value)) : ((ofEntries es).map (·.1)).Nodup :=
  (foldl_insert es (show (([] : Members).map (·.1)).Nodup from List.nodup_nil)).1

theorem mem_ofEntries {es : List (String × Value)} {m : String × Value} (h : m ∈ ofEntries es) : m ∈ es := by
  have hmem := (foldl_insert es (show (([] : Members).map (·.1)).Nodup from List.nodup_nil)).2 m h
  exact hmem.resolve_left List.not_mem_nil

/-- **Entries with distinct keys are members as they stand.** -/
theorem ofEntries_eq {es : List (String × Value)} (h : (es.map (·.1)).Nodup) : ofEntries es = es := by
  have general : ∀ (es ms : List (String × Value)), ((ms ++ es).map (·.1)).Nodup →
      es.foldl (fun ms e => Members.insert ms e.1 e.2) ms = ms ++ es := by
    intro es
    induction es with
    | nil => simp
    | cons e es ih =>
      intro ms h
      have hnew : e.1 ∉ ms.map (·.1) := by
        rw [List.map_append, List.nodup_append] at h
        exact fun hmem => h.2.2 e.1 hmem e.1 (by simp) rfl
      rw [List.foldl_cons, insert_of_not_mem hnew, ih _ (by simpa using h), List.append_assoc,
        List.singleton_append]
  exact general es [] (by simpa using h)

end Members

namespace Value

/-- Entries with sound values make a sound object. -/
theorem sound_object {es : List (String × Value)} (h : ∀ e ∈ es, e.2.Sound) :
    (Value.object (Members.ofEntries es)).Sound := by
  refine .intro (Members.nodup_ofEntries es) fun w hw => ?_
  obtain ⟨m, hm, rfl⟩ := List.mem_map.mp hw
  exact h m (Members.mem_ofEntries hm)

theorem sound_array {vs : List Value} (h : ∀ v ∈ vs, v.Sound) : (Value.array vs).Sound := .intro trivial h

theorem sound_string (s : String) : (Value.string s).Sound := .of_leaf trivial rfl

theorem sound_bool (b : Bool) : (Value.bool b).Sound := .of_leaf trivial rfl

theorem sound_null : Value.null.Sound := .of_leaf trivial rfl

theorem sound_number {n : Number} (h : n.Fits) : (Value.number n).Sound := .of_leaf h rfl

end Value

/-! ### JSON -/

theorem valuesOf?_mem {ds : List Draft} {vs : List Value} (h : valuesOf? ds = some vs) :
    ∀ v ∈ vs, ∃ d ∈ ds, valueOf? d = some v := by
  induction ds generalizing vs with
  | nil =>
    obtain rfl := Option.some.inj h
    exact nofun
  | cons d ds ih =>
    simp only [valuesOf?, Option.bind_eq_bind, Option.bind_eq_some_iff, Option.pure_def] at h
    obtain ⟨v, hv, vs, hvs, h⟩ := h
    obtain rfl := Option.some.inj h
    refine List.forall_mem_cons.mpr ⟨⟨d, List.mem_cons_self, hv⟩, fun w hw => ?_⟩
    obtain ⟨e, he, heq⟩ := ih hvs w hw
    exact ⟨e, List.mem_cons_of_mem d he, heq⟩

theorem membersOf?_mem {ds : List (Option Atom × Draft)} {ms : List (String × Value)}
    (h : membersOf? ds = some ms) : ∀ m ∈ ms, ∃ d ∈ ds, valueOf? d.2 = some m.2 := by
  induction ds generalizing ms with
  | nil =>
    obtain rfl := Option.some.inj h
    exact nofun
  | cons d ds ih =>
    obtain ⟨k, d⟩ := d
    simp only [membersOf?, Option.bind_eq_bind, Option.bind_eq_some_iff, Option.pure_def] at h
    obtain ⟨v, hv, ms, hms, h⟩ := h
    split at h
    · obtain rfl := Option.some.inj h
      refine List.forall_mem_cons.mpr ⟨⟨(_, d), List.mem_cons_self, hv⟩, fun m hm => ?_⟩
      obtain ⟨e, he, heq⟩ := ih hms m hm
      exact ⟨e, List.mem_cons_of_mem _ he, heq⟩
    · cases h

theorem Atom.Fits.sound {a : Atom} (h : a.Fits) : a.value.Sound := by
  cases a with
  | null => exact Value.sound_null
  | bool b => exact Value.sound_bool b
  | number n => exact Value.sound_number h
  | string s => exact Value.sound_string s

/-- **The value of a draft is sound.** -/
theorem valueOf?_sound {d : Draft} (h : d.All Atom.Fits) : ∀ v, valueOf? d = some v → v.Sound := by
  induction h with
  | scalar h =>
    intro v hv
    rw [valueOf?] at hv
    obtain rfl := Option.some.inj hv
    exact h.sound
  | list h ih =>
    intro v hv
    simp only [valueOf?, Option.bind_eq_bind, Option.bind_eq_some_iff] at hv
    obtain ⟨vs, hvs, hv⟩ := hv
    split at hv
    · obtain rfl := Option.some.inj hv
      refine Value.sound_array fun w hw => ?_
      obtain ⟨d, hd, hval⟩ := valuesOf?_mem hvs w hw
      exact ih d hd w hval
    · cases hv
  | map _ _ ih =>
    intro v hv
    simp only [valueOf?, Option.bind_eq_bind, Option.bind_eq_some_iff] at hv
    obtain ⟨ms, hms, hv⟩ := hv
    split at hv
    · obtain rfl := Option.some.inj hv
      refine Value.sound_object fun m hm => ?_
      obtain ⟨e, he, hval⟩ := membersOf?_mem hms m hm
      exact ih e he m.2 hval
    · cases hv
  | typed _ _ =>
    intro v hv
    cases hv
  | broken =>
    intro v hv
    cases hv

end Json

namespace Source

open Json (Value)
open Yaml (Scalar Kind)

/-- Where several things are read one after the other, each value comes from one of them. -/
theorem mem_of_readEach {τ β : Type} {read : τ → Except Fault (Option β)}
    {readEach : List τ → Except Fault (Option (List β))} (hnil : readEach [] = .ok (some []))
    (hcons : ∀ t ts, readEach (t :: ts) =
      match read t, readEach ts with
      | .ok v, .ok vs => .ok (do return (← v) :: (← vs))
      | .error f, _ => .error f
      | _, .error f => .error f)
    {ts : List τ} {vs : List β} (h : readEach ts = .ok (some vs)) :
    ∀ v ∈ vs, ∃ t ∈ ts, read t = .ok (some v) := by
  induction ts generalizing vs with
  | nil =>
    rw [hnil] at h
    obtain rfl := Option.some.inj (Except.ok.inj h)
    exact nofun
  | cons t ts ih =>
    rw [hcons] at h
    split at h
    · rename_i ov ovs hv hvs
      simp only [Except.ok.injEq, Option.bind_eq_bind, Option.bind_eq_some_iff, Option.pure_def] at h
      obtain ⟨v, rfl, ws, rfl, h⟩ := h
      obtain rfl := Option.some.inj h
      refine List.forall_mem_cons.mpr ⟨⟨t, List.mem_cons_self, hv⟩, fun w hw => ?_⟩
      obtain ⟨u, hu, heq⟩ := ih hvs w hw
      exact ⟨u, List.mem_cons_of_mem t hu, heq⟩
    · cases h
    · cases h

/-! ### Property lists -/

theorem plistScalar_sound {s : Plist.Scalar} (h : s.Fits) : ∀ v, plistScalar s = some v → v.Sound := by
  intro v hv
  cases s with
  | text t =>
    obtain rfl := Option.some.inj hv
    exact Value.sound_string t
  | bool b =>
    obtain rfl := Option.some.inj hv
    exact Value.sound_bool b
  | whole n =>
    obtain rfl := Option.some.inj hv
    exact Value.sound_number h
  | real f =>
    obtain rfl := Option.some.inj hv
    split
    · exact Value.sound_number trivial
    · exact Value.sound_null
  | date d =>
    obtain rfl := Option.some.inj hv
    exact Value.sound_string d.text
  | data bytes => cases hv

theorem plistItems_mem {ts : List (Document Plist.Scalar)} {vs : List Value}
    (h : plistItems ts = .ok (some vs)) : ∀ v ∈ vs, ∃ t ∈ ts, plistValue t = .ok (some v) := by
  refine mem_of_readEach rfl (fun t ts => ?_) h
  rw [plistItems]
  cases plistValue t <;> cases plistItems ts <;> rfl

theorem plistEntry_value {e : Option Plist.Scalar × Document Plist.Scalar} {m : String × Value}
    (h : plistEntry e = .ok (some m)) : plistValue e.2 = .ok (some m.2) := by
  obtain ⟨k, t⟩ := e
  rw [plistEntry] at h
  split at h
  · rename_i ov hv
    simp only [Except.ok.injEq, Option.bind_eq_bind, Option.bind_eq_some_iff, Option.pure_def] at h
    obtain ⟨key, -, v, rfl, h⟩ := h
    obtain rfl := Option.some.inj h
    exact hv
  · cases h

theorem plistEntries_mem {es : List (Option Plist.Scalar × Document Plist.Scalar)}
    {ms : List (String × Value)} (h : plistEntries es = .ok (some ms)) :
    ∀ m ∈ ms, ∃ e ∈ es, plistValue e.2 = .ok (some m.2) := by
  have hmem : ∀ m ∈ ms, ∃ e ∈ es, plistEntry e = .ok (some m) := by
    refine mem_of_readEach rfl (fun e es => ?_) h
    rw [plistEntries]
    cases plistEntry e <;> cases plistEntries es <;> rfl
  intro m hm
  obtain ⟨e, he, hread⟩ := hmem m hm
  exact ⟨e, he, plistEntry_value hread⟩

/-- **A value in a property list is sound.** -/
theorem plistValue_sound {t : Document Plist.Scalar} (h : t.All Plist.Scalar.Fits) :
    ∀ v, plistValue t = .ok (some v) → v.Sound := by
  induction h with
  | scalar h =>
    intro v hv
    exact plistScalar_sound h v (Except.ok.inj hv)
  | list _ ih =>
    intro v hv
    rw [plistValue] at hv
    split at hv
    · rename_i ovs hvs
      split at hv
      · obtain ⟨vs, rfl, rfl⟩ := Option.map_eq_some_iff.mp (Except.ok.inj hv)
        refine Value.sound_array fun w hw => ?_
        obtain ⟨t, ht, hval⟩ := plistItems_mem hvs w hw
        exact ih t ht w hval
      · cases hv
    · cases hv
  | map _ _ ih =>
    intro v hv
    rw [plistValue] at hv
    split at hv
    · rename_i oms hms
      split at hv
      · obtain ⟨ms, rfl, rfl⟩ := Option.map_eq_some_iff.mp (Except.ok.inj hv)
        refine Value.sound_object fun m hm => ?_
        obtain ⟨e, he, hval⟩ := plistEntries_mem hms m hm
        exact ih e he m.2 hval
      · cases hv
    · cases hv
  | typed _ _ =>
    intro v hv
    cases hv
  | broken =>
    intro v hv
    cases hv

/-! ### YAML -/

/-- A plain whole number that is not too large is one of 64 bits. -/
theorem ofWhole?_fits {m n : Int} (h : Kind.ofWhole? m = some (.whole n)) : Decimal.fitsWord n := by
  rw [Kind.ofWhole?] at h
  split at h
  · obtain rfl := Kind.whole.inj (Option.some.inj h)
    assumption
  · split at h <;> cases h

theorem wholeKind?_fits {cs : List Char} {n : Int} (h : Yaml.wholeKind? cs = some (.whole n)) :
    Decimal.fitsWord n := by
  obtain ⟨m, -, h⟩ := Option.bind_eq_some_iff.mp h
  exact ofWhole?_fits h

theorem kindOfText_fits {s : String} {n : Int} (h : Yaml.kindOfText s = .whole n) : Decimal.fitsWord n := by
  rw [Yaml.kindOfText] at h
  split at h
  · cases h
  · split at h
    · cases h
    · split at h
      · rename_i k hk
        exact wholeKind?_fits (h ▸ hk)
      · split at h
        · cases h
        · split at h <;> cases h

theorem kind?_fits {s : Scalar} {n : Int} (h : s.kind? = some (.whole n)) : Decimal.fitsWord n := by
  rw [Yaml.Scalar.kind?] at h
  split at h
  · split at h
    · obtain ⟨b, -, h⟩ := Option.map_eq_some_iff.mp h
      cases h
    · split at h
      · exact wholeKind?_fits h
      · split at h
        · obtain ⟨f, -, h⟩ := Option.map_eq_some_iff.mp h
          cases h
        · split at h
          · split at h <;> cases h
          · cases h
  · split at h
    · exact kindOfText_fits (Option.some.inj h)
    · cases h

theorem yamlScalar_sound {s : Scalar} {v : Value} (h : yamlScalar s = .ok v) : v.Sound := by
  rw [yamlScalar] at h
  split at h
  · cases h
  · split at h
    · obtain rfl := Except.ok.inj h
      exact Value.sound_null
    · obtain rfl := Except.ok.inj h
      exact Value.sound_bool _
    · obtain rfl := Except.ok.inj h
      exact Value.sound_number (kind?_fits ‹_›)
    · cases h
    · obtain rfl := Except.ok.inj h
      split
      · exact Value.sound_number trivial
      · exact Value.sound_null
    · obtain rfl := Except.ok.inj h
      exact Value.sound_string _
    · cases h

theorem yamlItems_mem {ts : List (Document Scalar)} {vs : List Value} (h : yamlItems ts = .ok (some vs)) :
    ∀ v ∈ vs, ∃ t ∈ ts, yamlValue t = .ok (some v) := by
  refine mem_of_readEach rfl (fun t ts => ?_) h
  rw [yamlItems]
  cases yamlValue t <;> cases yamlItems ts <;> rfl

theorem yamlEntry_value {e : Option Scalar × Document Scalar} {m : String × Value}
    (h : yamlEntry e = .ok (some m)) : yamlValue e.2 = .ok (some m.2) := by
  obtain ⟨k, t⟩ := e
  rw [yamlEntry] at h
  split at h
  · rename_i okey ov hkey hv
    simp only [Except.ok.injEq, Option.bind_eq_bind, Option.bind_eq_some_iff, Option.pure_def] at h
    obtain ⟨key, -, v, rfl, h⟩ := h
    obtain rfl := Option.some.inj h
    exact hv
  · cases h
  · cases h

theorem yamlEntries_mem {es : List (Option Scalar × Document Scalar)} {ms : List (String × Value)}
    (h : yamlEntries es = .ok (some ms)) : ∀ m ∈ ms, ∃ e ∈ es, yamlValue e.2 = .ok (some m.2) := by
  have hmem : ∀ m ∈ ms, ∃ e ∈ es, yamlEntry e = .ok (some m) := by
    refine mem_of_readEach rfl (fun e es => ?_) h
    rw [yamlEntries]
    cases yamlEntry e <;> cases yamlEntries es <;> rfl
  intro m hm
  obtain ⟨e, he, hread⟩ := hmem m hm
  exact ⟨e, he, yamlEntry_value hread⟩

/-- **A value in YAML is sound.** -/
theorem yamlValue_sound (t : Document Scalar) : ∀ v, yamlValue t = .ok (some v) → v.Sound := by
  -- All scalars there are will do: what is too large for 64 bits is refused where it is looked at.
  induction t.all_of_forall (P := fun _ => True) fun _ => trivial with
  | @scalar s _ =>
    intro v hv
    rw [yamlValue] at hv
    cases hs : yamlScalar s with
    | error f =>
      rw [hs] at hv
      cases hv
    | ok w =>
      rw [hs] at hv
      obtain rfl := Option.some.inj (Except.ok.inj hv)
      exact yamlScalar_sound hs
  | list _ ih =>
    intro v hv
    rw [yamlValue] at hv
    split at hv
    · rename_i ovs hvs
      split at hv
      · obtain ⟨vs, rfl, rfl⟩ := Option.map_eq_some_iff.mp (Except.ok.inj hv)
        refine Value.sound_array fun w hw => ?_
        obtain ⟨t, ht, hval⟩ := yamlItems_mem hvs w hw
        exact ih t ht w hval
      · cases hv
    · cases hv
  | map _ _ ih =>
    intro v hv
    rw [yamlValue] at hv
    split at hv
    · rename_i oms hms
      split at hv
      · obtain ⟨ms, rfl, rfl⟩ := Option.map_eq_some_iff.mp (Except.ok.inj hv)
        refine Value.sound_object fun m hm => ?_
        obtain ⟨e, he, hval⟩ := yamlEntries_mem hms m hm
        exact ih e he m.2 hval
      · cases hv
    · cases hv
  | typed _ _ =>
    intro v hv
    cases hv
  | broken =>
    intro v hv
    cases hv

end Source
end ScopeLexer
