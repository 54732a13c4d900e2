/-
This file says for which regions a host is given its region once. A host is taken
to name its region already if its label after the service label has a certain form:
two characters, a word and one digit, between hyphens. The region of the bucket is
not looked at. A region of that form is put in at most once; a region of any other
form is put in front of a host that begins with it, and a second time when the
host is asked for its region again.
-/

import Fixity.Proofs.Text.Cutting
import Fixity.Proofs.Text.Lowering
import Fixity.Storage.Bucket

namespace Fixity.Storage

/-! ### Labels of regions -/

/-- A text of letters, digits and underscores of ASCII that is not empty. -/
structure Word (text : List Char) : Prop where
  present : text ≠ []
  wordChars : ∀ c ∈ text, isWordChar c = true

/-- The form by which a label is known to name a region: a word of two characters, a word and a
digit, with hyphens between them. -/
inductive RegionForm : List Char → Prop where
  | intro {area zone : List Char} {digit : Char} (two : area.length = 2) (first : Word area)
      (second : Word zone) (numbered : digit.isDigit = true) :
      RegionForm (area ++ '-' :: (zone ++ '-' :: [digit]))

theorem Word.hyphen_notMem {text : List Char} (word : Word text) : '-' ∉ text :=
  fun member => absurd (word.wordChars '-' member) (by decide)

theorem isRegionLabel_iff {label : List Char} : isRegionLabel label = true ↔ RegionForm label := by
  constructor
  · intro named
    rw [isRegionLabel] at named
    split at named
    · rename_i area zone number parts
      simp only [Bool.and_eq_true, beq_iff_eq, List.all_eq_true, Bool.not_eq_true',
        List.isEmpty_eq_false_iff] at named
      obtain ⟨⟨⟨⟨⟨two, first⟩, present⟩, second⟩, one⟩, numbered⟩ := named
      obtain ⟨digit, rfl⟩ := List.length_eq_one_iff.mp one
      have joined := ((Text.splitAll_eq_iff (List.cons_ne_nil _ _)).mp parts).1
      rw [← joined]
      exact .intro two ⟨List.ne_nil_of_length_pos (by omega), first⟩ ⟨present, second⟩
        (numbered digit List.mem_cons_self)
    · cases named
  · rintro @⟨area, zone, digit, two, first, second, numbered⟩
    have differ : digit ≠ '-' := fun same => absurd (same ▸ numbered) (by decide)
    have parts : Text.splitAll '-' (area ++ '-' :: (zone ++ '-' :: [digit])) =
        [area, zone, [digit]] := by
      rw [Text.splitAll_append_cons first.hyphen_notMem,
        Text.splitAll_append_cons second.hyphen_notMem, Text.splitAll, if_neg differ]
      rfl
    rw [isRegionLabel, parts]
    simp only [Bool.and_eq_true, beq_iff_eq, List.all_eq_true, Bool.not_eq_true',
      List.isEmpty_eq_false_iff]
    exact ⟨⟨⟨⟨⟨two, first.wordChars⟩, second.present⟩, second.wordChars⟩, rfl⟩,
      fun c member => List.mem_singleton.mp member ▸ numbered⟩

instance (label : List Char) : Decidable (RegionForm label) :=
  decidable_of_iff _ isRegionLabel_iff

/-! ### Hosts that begin with a region -/

/-- A host that names a region begins with the service label. -/
theorem serviceLabel_prefix_of_hasRegion {host : List Char} (named : hasRegion host = true) :
    serviceLabel <+: host := by
  rw [hasRegion] at named
  split at named
  · cases named
  · rename_i rest dropped
    exact ⟨rest, Text.dropBeginning?_eq_some_iff.mp dropped⟩

theorem hasRegion_append {region : List Char} (whole : '.' ∉ region) (rest : List Char) :
    hasRegion (serviceLabel ++ (region ++ '.' :: rest)) = isRegionLabel region := by
  rw [hasRegion, Text.dropBeginning?_append]
  dsimp only
  rw [Text.splitFirst?_append_cons whole]

namespace Bucket

/-- A host that names a region is only lowered. -/
theorem hostWithRegion_of_hasRegion {bucket : Bucket}
    (named : hasRegion (Text.lower bucket.host.toList) = true) :
    bucket.hostWithRegion = Text.lowerString bucket.host :=
  if_pos named

/-- What the region is put in front of: a lowered host without its service label, if it has one. -/
def bareHost (bucket : Bucket) : List Char :=
  (Text.dropBeginning? serviceLabel (Text.lower bucket.host.toList)).getD
    (Text.lower bucket.host.toList)

theorem bareHost_of_begins {bucket : Bucket} {rest : List Char}
    (begins : Text.lower bucket.host.toList = serviceLabel ++ rest) : bucket.bareHost = rest := by
  rw [bareHost, begins, Text.dropBeginning?_append]
  rfl

/-- A host is what the region is put in front of, or the service label and that. -/
theorem lower_host_eq (bucket : Bucket) :
    Text.lower bucket.host.toList = bucket.bareHost ∨
      Text.lower bucket.host.toList = serviceLabel ++ bucket.bareHost := by
  rw [bareHost]
  cases dropped : Text.dropBeginning? serviceLabel (Text.lower bucket.host.toList) with
  | none => exact .inl rfl
  | some rest => exact .inr (Text.dropBeginning?_eq_some_iff.mp dropped).symm

theorem toList_hostWithRegion_of_not_hasRegion {bucket : Bucket}
    (unnamed : hasRegion (Text.lower bucket.host.toList) = false) :
    bucket.hostWithRegion.toList =
      serviceLabel ++ (bucket.region.toList ++ '.' :: bucket.bareHost) := by
  rw [hostWithRegion]
  dsimp only
  rw [unnamed, if_neg Bool.false_ne_true]
  simp only [String.toList_append, String.toList_ofList, List.append_assoc]
  rfl

/-- The characters of a host with its region come from the service label, from the region and from
the lowered host. -/
theorem mem_hostWithRegion {bucket : Bucket} {c : Char}
    (member : c ∈ bucket.hostWithRegion.toList) :
    c ∈ serviceLabel ∨ c ∈ bucket.region.toList ∨ c ∈ Text.lower bucket.host.toList := by
  cases named : hasRegion (Text.lower bucket.host.toList) with
  | true =>
    rw [hostWithRegion_of_hasRegion named, Text.toList_lowerString] at member
    exact .inr (.inr member)
  | false =>
    rw [toList_hostWithRegion_of_not_hasRegion named, List.mem_append, List.mem_append,
      List.mem_cons] at member
    obtain label | region | rfl | bare := member
    · exact .inl label
    · exact .inr (.inl region)
    · exact .inl (by decide)
    · obtain same | same := bucket.lower_host_eq
      · exact .inr (.inr (same ▸ bare))
      · exact .inr (.inr (same ▸ List.mem_append_right _ bare))

/-- A host with its region is the lowered host, or is longer. -/
theorem hostWithRegion_eq_or_longer (bucket : Bucket) :
    bucket.hostWithRegion = Text.lowerString bucket.host ∨
      (Text.lowerString bucket.host).toList.length < bucket.hostWithRegion.toList.length := by
  cases named : hasRegion (Text.lower bucket.host.toList) with
  | true => exact .inl (hostWithRegion_of_hasRegion named)
  | false =>
    right
    have bare : (Text.lower bucket.host.toList).length ≤
        serviceLabel.length + bucket.bareHost.length := by
      obtain same | same := bucket.lower_host_eq
      · rw [← same]
        exact Nat.le_add_left _ _
      · rw [← List.length_append, ← same]
    rw [toList_hostWithRegion_of_not_hasRegion named, Text.toList_lowerString, List.length_append,
      List.length_append, List.length_cons]
    omega

/-- Where the region is in lower case, so is the host with the region. -/
theorem lowerString_hostWithRegion {bucket : Bucket}
    (small : Text.lowerString bucket.region = bucket.region) :
    Text.lowerString bucket.hostWithRegion = bucket.hostWithRegion := by
  rw [Text.lowerString, Text.lower_eq_self, String.ofList_toList]
  intro c member
  have label : Text.lower serviceLabel = serviceLabel := by decide +kernel
  have region : Text.lower bucket.region.toList = bucket.region.toList := by
    rw [← Text.toList_lowerString, small]
  obtain inLabel | inRegion | inHost := mem_hostWithRegion member
  · exact Text.lowered_of_mem_lower (label.symm ▸ inLabel)
  · exact Text.lowered_of_mem_lower (region.symm ▸ inRegion)
  · exact Text.lowered_of_mem_lower inHost

/-- A host that begins with the region of its bucket: a region of the known form is not put in
again, a region of another form is. -/
theorem hostWithRegion_of_begins {bucket : Bucket} (whole : '.' ∉ bucket.region.toList)
    {rest : String}
    (begins : Text.lowerString bucket.host = "s3." ++ bucket.region ++ "." ++ rest) :
    bucket.hostWithRegion =
      if RegionForm bucket.region.toList then "s3." ++ bucket.region ++ "." ++ rest
      else "s3." ++ bucket.region ++ "." ++ bucket.region ++ "." ++ rest := by
  have lowered : Text.lower bucket.host.toList =
      serviceLabel ++ (bucket.region.toList ++ '.' :: rest.toList) := by
    rw [← Text.toList_lowerString, begins]
    simp only [String.toList_append, List.append_assoc]
    rfl
  have label := hasRegion_append whole rest.toList
  rw [← lowered] at label
  by_cases form : RegionForm bucket.region.toList
  · rw [if_pos form, ← begins]
    exact hostWithRegion_of_hasRegion (label.trans (isRegionLabel_iff.mpr form))
  · have unnamed : hasRegion (Text.lower bucket.host.toList) = false :=
      label.trans (Bool.eq_false_iff.mpr (mt isRegionLabel_iff.mp form))
    rw [if_neg form, ← String.toList_inj, toList_hostWithRegion_of_not_hasRegion unnamed,
      bareHost_of_begins lowered]
    simp only [String.toList_append, List.append_assoc]
    rfl

/-- A bucket with the host that it has with its region. -/
def settled (bucket : Bucket) : Bucket :=
  { bucket with host := bucket.hostWithRegion }

/-- **How often a region is put in.** Let the region of a bucket be in lower case and without dots.
If the bucket's host begins with the region, then the host with the region is the host, or begins
with the region twice. To put in a region is to put it in for good where the region is of the form
that is known, or where the host names a region of that form; elsewhere each time adds the region
once more. -/
theorem hostWithRegion_settled {bucket : Bucket} (whole : '.' ∉ bucket.region.toList)
    (small : Text.lowerString bucket.region = bucket.region) :
    (∀ rest, Text.lowerString bucket.host = "s3." ++ bucket.region ++ "." ++ rest →
      bucket.hostWithRegion =
        if RegionForm bucket.region.toList then Text.lowerString bucket.host
        else "s3." ++ bucket.region ++ "." ++ bucket.region ++ "." ++ rest) ∧
    (bucket.settled.hostWithRegion = bucket.hostWithRegion ↔
      RegionForm bucket.region.toList ∨ hasRegion (Text.lower bucket.host.toList) = true) := by
  refine ⟨fun rest begins => begins ▸ hostWithRegion_of_begins whole begins, ?_⟩
  have lowered : Text.lowerString bucket.settled.host = bucket.hostWithRegion :=
    lowerString_hostWithRegion small
  cases named : hasRegion (Text.lower bucket.host.toList) with
  | true =>
    simp only [or_true, iff_true]
    -- In lower case the host still names its region.
    have still : hasRegion (Text.lower bucket.settled.host.toList) = true := by
      rw [settled, hostWithRegion_of_hasRegion named, Text.toList_lowerString, Text.lower_lower]
      exact named
    exact (hostWithRegion_of_hasRegion still).trans lowered
  | false =>
    simp only [Bool.false_eq_true, or_false]
    -- The host that the region has been put into begins with the region.
    have once : bucket.hostWithRegion =
        "s3." ++ bucket.region ++ "." ++ String.ofList bucket.bareHost := by
      rw [← String.toList_inj, toList_hostWithRegion_of_not_hasRegion named]
      simp only [String.toList_append, String.toList_ofList, List.append_assoc]
      rfl
    have again : bucket.settled.hostWithRegion =
        if RegionForm bucket.region.toList then bucket.hostWithRegion
        else "s3." ++ bucket.region ++ "." ++ bucket.region ++ "." ++
          String.ofList bucket.bareHost := by
      rw [@hostWithRegion_of_begins bucket.settled whole _ (lowered.trans once), once]
      rfl
    by_cases form : RegionForm bucket.region.toList
    · exact iff_of_true (again.trans (if_pos form)) form
    · refine iff_of_false (fun same => ?_) form
      rw [again, if_neg form, once] at same
      have lengths := congrArg String.length same
      simp only [String.length_append] at lengths
      have one : ".".length = 1 := rfl
      omega

/-- A bucket whose host begins with its region, in capital letters here and there. -/
def western : Bucket where
  name := "preservation.or"
  provider := "wasabi-or"
  host := "S3.us-west-1.WasabiSys.com"
  region := "us-west-1"
  restorePriority := 3

/-- A bucket whose host begins with its region, which has a word more. -/
def governed : Bucket where
  name := "preservation.or"
  provider := "aws"
  host := "s3.us-gov-west-1.amazonaws.com"
  region := "us-gov-west-1"
  restorePriority := 1

/-- A region of three parts is not put in again. -/
theorem hostWithRegion_settled_western :
    '.' ∉ western.region.toList ∧ Text.lowerString western.region = western.region ∧
      western.hostWithRegion = "s3.us-west-1.wasabisys.com" ∧
      western.settled.hostWithRegion = western.hostWithRegion := by
  have whole : '.' ∉ western.region.toList := by decide
  have small : Text.lowerString western.region = western.region := by decide +kernel
  have begins : Text.lowerString western.host =
      "s3." ++ western.region ++ "." ++ "wasabisys.com" := by decide +kernel
  have form : RegionForm western.region.toList := by decide +kernel
  obtain ⟨once, twice⟩ := hostWithRegion_settled whole small
  refine ⟨whole, small, ?_, twice.mpr (.inl form)⟩
  rw [once _ begins, if_pos form, begins]
  decide +kernel

/-- A region of four parts is put in again, and so the host begins with it twice. -/
theorem hostWithRegion_governed_ne :
    governed.region ≠ "" ∧ '.' ∉ governed.region.toList ∧
      Text.lowerString governed.region = governed.region ∧
      Text.lowerString governed.host = "s3." ++ governed.region ++ "." ++ "amazonaws.com" ∧
      governed.hostWithRegion = "s3.us-gov-west-1.us-gov-west-1.amazonaws.com" ∧
      governed.hostWithRegion ≠ Text.lowerString governed.host ∧
      governed.settled.hostWithRegion ≠ governed.hostWithRegion := by
  decide +kernel

end Bucket

end Fixity.Storage
