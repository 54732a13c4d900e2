/-
This file follows the values of user metadata through any sequence of writes. Many
texts spell one key: its name in any letter case, alone or after one mark of headers,
though not after two. The last write under any spelling of a key decides what the key
holds, and writes under other keys do not touch it. An empty value is a value like any
other; only the path in the bag looks past it, so a plain path that is overwritten by
an empty one gives way to the encoded path again.
-/

import Fixity.Proofs.Text.Cutting
import Fixity.Storage.Metadata
import Mathlib.Data.List.Induction

namespace Fixity.Storage

/-! ### Spellings -/

/-- A text spells a key when it is the key's name in any letter case, alone or after one mark of
headers. -/
def MetaKey.SpelledBy (key : MetaKey) (text : String) : Prop :=
  Text.lowerAsciiString text = key.name ∨
    Text.lowerAsciiString text = userMetadataMark ++ key.name

instance (key : MetaKey) (text : String) : Decidable (key.SpelledBy text) :=
  inferInstanceAs (Decidable (_ ∨ _))

theorem MetaKey.mark_not_prefix_name (key : MetaKey) :
    ¬ userMetadataMark.toList <+: key.name.toList := by
  cases key <;> decide

/-- The spellings of a key are the texts that come to its name in lower case and without a leading
mark. -/
theorem normalizeKey_eq_name_iff {text : String} {key : MetaKey} :
    normalizeKey text = key.name ↔ key.SpelledBy text := by
  have bare : Text.lowerAsciiString text = key.name ↔
      Text.lowerAscii text.toList = key.name.toList := by
    rw [← String.toList_inj, Text.lowerAsciiString, String.toList_ofList]
  have marked : Text.lowerAsciiString text = userMetadataMark ++ key.name ↔
      userMetadataMark.toList ++ key.name.toList = Text.lowerAscii text.toList := by
    rw [← String.toList_inj, Text.lowerAsciiString, String.toList_ofList, String.toList_append,
      eq_comm]
  rw [MetaKey.SpelledBy, bare, marked, ← Text.dropBeginning?_eq_some_iff, normalizeKey,
    ← String.toList_inj, String.toList_ofList]
  cases cut : Text.dropBeginning? userMetadataMark.toList (Text.lowerAscii text.toList) with
  | none => simp only [Option.getD_none, reduceCtorEq, or_false]
  | some rest =>
    -- A text that begins with the mark is no name.
    have foreign : Text.lowerAscii text.toList ≠ key.name.toList := fun same =>
      key.mark_not_prefix_name ⟨rest, (Text.dropBeginning?_eq_some_iff.mp cut).trans same⟩
    simp only [Option.getD_some, Option.some.injEq, foreign, false_or]

theorem MetaKey.name_injective : Function.Injective MetaKey.name := by
  intro key other same
  cases key <;> cases other <;> first | rfl | exact absurd same (by decide)

/-- A text spells one key at most. -/
theorem MetaKey.eq_of_spelledBy {key other : MetaKey} {text : String} (spelled : key.SpelledBy text)
    (too : other.SpelledBy text) : key = other :=
  name_injective
    ((normalizeKey_eq_name_iff.mpr spelled).symm.trans (normalizeKey_eq_name_iff.mpr too))

/-- With two marks before it, a text spells no key. -/
theorem not_spelledBy_of_two_marks {text rest : String} (key : MetaKey)
    (twice : Text.lowerAsciiString text = userMetadataMark ++ (userMetadataMark ++ rest)) :
    ¬ key.SpelledBy text := by
  rintro (bare | marked)
  · rw [twice, ← String.toList_inj, String.toList_append] at bare
    exact key.mark_not_prefix_name ⟨_, bare⟩
  · rw [twice, ← String.toList_inj, String.toList_append, String.toList_append,
      String.toList_append, List.append_cancel_left_eq] at marked
    exact key.mark_not_prefix_name ⟨_, marked⟩

/-! ### Writes -/

/-- A write to metadata: under a key in any spelling, or under one of the pipeline's keys. -/
inductive Write where
  | insert (key value : String)
  | set (key : MetaKey) (value : String)

namespace Write

/-- What a write spells its key by. -/
def key : Write → String
  | insert key _ => key
  | set key _ => key.name

def value : Write → String
  | insert _ value => value
  | set _ value => value

end Write

/-- The last of some writes under a key, in any of its spellings. -/
def lastWrite? (key : MetaKey) (writes : List Write) : Option Write :=
  (writes.filter fun write => key.SpelledBy write.key).getLast?

theorem lastWrite?_eq_none_iff {key : MetaKey} {writes : List Write} :
    lastWrite? key writes = none ↔ ∀ write ∈ writes, ¬ key.SpelledBy write.key := by
  simp only [lastWrite?, List.getLast?_eq_none_iff, List.filter_eq_nil_iff, decide_eq_true_eq]

theorem lastWrite?_append_cons {key : MetaKey} {before after : List Write} {write : Write}
    (spelled : key.SpelledBy write.key) (silent : ∀ later ∈ after, ¬ key.SpelledBy later.key) :
    lastWrite? key (before ++ write :: after) = some write := by
  have nothing : (after.filter fun later => key.SpelledBy later.key) = [] :=
    List.filter_eq_nil_iff.mpr fun later member => by
      rw [decide_eq_true_eq]
      exact silent later member
  have found : decide (key.SpelledBy write.key) = true := decide_eq_true spelled
  rw [lastWrite?, List.filter_append, List.filter_cons, if_pos found, nothing, List.getLast?_concat]

theorem lastWrite?_concat (key : MetaKey) (writes : List Write) (write : Write) :
    lastWrite? key (writes ++ [write]) =
      if key.SpelledBy write.key then some write else lastWrite? key writes := by
  rw [lastWrite?, List.filter_append, List.filter_singleton]
  by_cases spelled : key.SpelledBy write.key
  · rw [decide_eq_true spelled, cond_true, List.getLast?_concat, if_pos spelled]
  · rw [decide_eq_false spelled, cond_false, List.append_nil, if_neg spelled, lastWrite?]

/-! ### What metadata hold after writes -/

namespace Metadata

/-- Metadata after a write. -/
def write (metadata : Metadata) : Write → Metadata
  | .insert key value => metadata.insert key value
  | .set key value => metadata.set key value

/-- The metadata that some writes leave, in their order, where there was none. -/
def ofWrites (writes : List Write) : Metadata :=
  writes.foldl write empty

/-- Putting a value under a key changes what is found under this key alone. -/
theorem find?_put (metadata : Metadata) (key value other : String) :
    (metadata.put key value).find? other =
      if other = key then some value else metadata.find? other := by
  rw [find?, put, Std.ExtTreeMap.getElem?_insert]
  exact if_congr (Std.LawfulEqCmp.compare_eq_iff_eq.trans eq_comm) rfl rfl

theorem write_eq_put (metadata : Metadata) (write : Write) :
    metadata.write write = metadata.put (normalizeKey write.key) write.value := by
  cases write <;> rfl

/-- A write gives its value to the key that it spells, and touches no other. -/
theorem get_write (metadata : Metadata) (write : Write) (key : MetaKey) :
    (metadata.write write).get key =
      if key.SpelledBy write.key then write.value else metadata.get key := by
  rw [write_eq_put, get, find?_put]
  by_cases spelled : key.SpelledBy write.key
  · rw [if_pos (normalizeKey_eq_name_iff.mpr spelled).symm, if_pos spelled, Option.getD_some]
  · rw [if_neg fun same => spelled (normalizeKey_eq_name_iff.mp same.symm), if_neg spelled, get]

/-- The last write under a key decides what the key holds; without one it holds what it held. -/
theorem get_foldl_write (metadata : Metadata) (writes : List Write) (key : MetaKey) :
    (writes.foldl write metadata).get key =
      ((lastWrite? key writes).map Write.value).getD (metadata.get key) := by
  induction writes using List.reverseRecOn with
  | nil => rfl
  | append_singleton writes last inductionHypothesis =>
    rw [List.foldl_concat, get_write, inductionHypothesis, lastWrite?_concat]
    split <;> rfl

theorem get_ofWrites (writes : List Write) (key : MetaKey) :
    (ofWrites writes).get key = ((lastWrite? key writes).map Write.value).getD "" :=
  get_foldl_write empty writes key

theorem ofWrites_concat (writes : List Write) (last : Write) :
    ofWrites (writes ++ [last]) = (ofWrites writes).write last :=
  List.foldl_concat ..

theorem pathInBag_of_ne {metadata : Metadata} (plain : metadata.get .bagPath ≠ "") :
    metadata.pathInBag = metadata.get .bagPath :=
  if_pos plain

theorem pathInBag_of_eq {metadata : Metadata} (empty : metadata.get .bagPath = "") :
    metadata.pathInBag = metadata.get .bagPathEncoded :=
  if_neg (not_not_intro empty)

/-! ### The last write wins -/

/-- After some writes a key holds the value of the last one under any of its spellings, and nothing
where there is none. One more write under no spelling of a key, such as a text with two marks, does
not touch it. The path in the bag is the plain one unless that is empty; once it is overwritten by
an empty one, the encoded path is found again. -/
structure LastWriteWins (writes : List Write) : Prop where
  written : ∀ (key : MetaKey) before write after, writes = before ++ write :: after →
    key.SpelledBy write.key → (∀ later ∈ after, ¬ key.SpelledBy later.key) →
    (ofWrites writes).get key = write.value
  unwritten : ∀ key : MetaKey, (∀ write ∈ writes, ¬ key.SpelledBy write.key) →
    (ofWrites writes).get key = ""
  untouched : ∀ (key : MetaKey) write, ¬ key.SpelledBy write.key →
    (ofWrites (writes ++ [write])).get key = (ofWrites writes).get key
  doubled : ∀ (key : MetaKey) write rest,
    Text.lowerAsciiString write.key = userMetadataMark ++ (userMetadataMark ++ rest) →
    (ofWrites (writes ++ [write])).get key = (ofWrites writes).get key
  plainPath : (ofWrites writes).get .bagPath ≠ "" →
    (ofWrites writes).pathInBag = (ofWrites writes).get .bagPath
  encodedPath : (ofWrites writes).get .bagPath = "" →
    (ofWrites writes).pathInBag = (ofWrites writes).get .bagPathEncoded
  uncovered : ∀ write, MetaKey.bagPath.SpelledBy write.key → write.value = "" →
    (ofWrites (writes ++ [write])).pathInBag = (ofWrites writes).get .bagPathEncoded

/-- **What metadata hold.** Any sequence of writes, in any spellings, leaves each key with its last
value. -/
theorem lastWriteWins_ofWrites (writes : List Write) : LastWriteWins writes := by
  have untouched (key : MetaKey) (write : Write) (other : ¬ key.SpelledBy write.key) :
      (ofWrites (writes ++ [write])).get key = (ofWrites writes).get key := by
    rw [ofWrites_concat, get_write, if_neg other]
  refine ⟨?written, ?unwritten, untouched, ?doubled, pathInBag_of_ne, pathInBag_of_eq, ?uncovered⟩
  case written =>
    intro key before write after split spelled silent
    rw [get_ofWrites, split, lastWrite?_append_cons spelled silent, Option.map_some,
      Option.getD_some]
  case unwritten =>
    intro key silent
    rw [get_ofWrites, lastWrite?_eq_none_iff.mpr silent, Option.map_none, Option.getD_none]
  case doubled =>
    intro key write rest twice
    exact untouched key write (not_spelledBy_of_two_marks key twice)
  case uncovered =>
    intro write spelled value
    have empty : (ofWrites (writes ++ [write])).get .bagPath = "" := by
      rw [ofWrites_concat, get_write, if_pos spelled, value]
    have encoded : ¬ MetaKey.bagPathEncoded.SpelledBy write.key := fun too =>
      MetaKey.noConfusion (MetaKey.eq_of_spelledBy spelled too)
    rw [pathInBag_of_eq empty, untouched .bagPathEncoded write encoded]

/-- An empty path uncovers the encoded one, and a text with two marks hides neither. -/
example :
    (ofWrites [.insert "BagPath-Encoded" "a%20b", .set .bagPath "a b",
      .insert "X-Amz-Meta-BagPath" "", .insert "x-amz-meta-x-amz-meta-bagpath" "c"]).pathInBag =
        "a%20b" := by
  decide +kernel

end Metadata

end Fixity.Storage
