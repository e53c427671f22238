import WorkflowDrivers.Models.Decision

/-!
# `Policies.Evidence` — evidence references and target identity

The two comparisons the gates of `proposal.py` are made of: whether two lists of evidence references share
one, and whether two targets have the same identity. Both are tests over keys or field names in the source;
`refsOverlap_iff` and `targetIdentityMatches_iff` say what they decide.
-/

namespace WorkflowDrivers
open Lib

/-! ## Evidence references -/

/-- `_ref_key`. -/
def refKey (ref : EvidenceRef) : String × String × Option String :=
  (StrEnum.value ref.type, ref.uri, ref.digest)

/-- `_refs_overlap`. -/
def refsOverlap (left right : List EvidenceRef) : Bool :=
  let rightKeys := right.map refKey
  left.any (fun ref => rightKeys.contains (refKey ref))

theorem refKey_injective : Function.Injective refKey := by
  intro a b h
  simp only [refKey, Prod.mk.injEq, StrEnum.value_inj] at h
  cases a
  cases b
  simp_all

/-- Two reference lists overlap when they share a reference: same type, uri and digest. -/
theorem refsOverlap_iff {left right : List EvidenceRef} :
    refsOverlap left right = true ↔ ∃ ref ∈ left, ref ∈ right := by
  simp [refsOverlap, refKey_injective.eq_iff]

/-! ## Target identity -/

/-- The fields that identify a target. -/
inductive IdentityField
  | url | port | serviceIdentity | cwd | repo | worktree | ownerProfile
  deriving DecidableEq, Repr

def IdentityField.name : IdentityField → String
  | .url => "url"
  | .port => "port"
  | .serviceIdentity => "service_identity"
  | .cwd => "cwd"
  | .repo => "repo"
  | .worktree => "worktree"
  | .ownerProfile => "owner_profile"

/-- The tuple `fields` of the comparisons. -/
def identityFields : List IdentityField :=
  [.url, .port, .serviceIdentity, .cwd, .repo, .worktree, .ownerProfile]

/-- A value of an identity field: `str | int`. -/
inductive FieldValue
  | text (s : String)
  | number (n : Int)
  deriving DecidableEq

def FieldValue.repr [UnicodeData] : FieldValue → String
  | .text s => pyRepr s
  | .number n => String.ofList (decimal n)

/-- `getattr(target, field)`. -/
def TargetSurface.getattr (target : TargetSurface) : IdentityField → Option FieldValue
  | .url => target.url.map .text
  | .port => target.port.map .number
  | .serviceIdentity => target.serviceIdentity.map .text
  | .cwd => target.cwd.map .text
  | .repo => target.repo.map .text
  | .worktree => target.worktree.map .text
  | .ownerProfile => target.ownerProfile.map .text

/-- `_target_identity_matches`. -/
def targetIdentityMatches (left right : TargetSurface) : Bool :=
  identityFields.all (fun field => left.getattr field == right.getattr field)

/-- Two targets with one identity: the seven fields agree. -/
structure SameIdentity (left right : TargetSurface) : Prop where
  url : left.url = right.url
  port : left.port = right.port
  serviceIdentity : left.serviceIdentity = right.serviceIdentity
  cwd : left.cwd = right.cwd
  repo : left.repo = right.repo
  worktree : left.worktree = right.worktree
  ownerProfile : left.ownerProfile = right.ownerProfile

theorem mem_identityFields (field : IdentityField) : field ∈ identityFields := by
  cases field <;> decide

theorem text_map_inj {a b : Option String} : a.map FieldValue.text = b.map FieldValue.text ↔ a = b :=
  (Option.map_injective fun _ _ h => FieldValue.text.inj h).eq_iff

theorem number_map_inj {a b : Option Int} : a.map FieldValue.number = b.map FieldValue.number ↔ a = b :=
  (Option.map_injective fun _ _ h => FieldValue.number.inj h).eq_iff

/-- The seven fields agree exactly when every attribute read does. -/
theorem sameIdentity_iff {left right : TargetSurface} :
    SameIdentity left right ↔ ∀ field, left.getattr field = right.getattr field := by
  constructor
  · intro h field
    cases field <;> simp only [TargetSurface.getattr]
    · rw [h.url]
    · rw [h.port]
    · rw [h.serviceIdentity]
    · rw [h.cwd]
    · rw [h.repo]
    · rw [h.worktree]
    · rw [h.ownerProfile]
  · intro h
    exact
      { url := text_map_inj.mp (h .url)
        port := number_map_inj.mp (h .port)
        serviceIdentity := text_map_inj.mp (h .serviceIdentity)
        cwd := text_map_inj.mp (h .cwd)
        repo := text_map_inj.mp (h .repo)
        worktree := text_map_inj.mp (h .worktree)
        ownerProfile := text_map_inj.mp (h .ownerProfile) }

theorem targetIdentityMatches_iff {left right : TargetSurface} :
    targetIdentityMatches left right = true ↔ SameIdentity left right := by
  rw [sameIdentity_iff]
  simp only [targetIdentityMatches, List.all_eq_true, beq_iff_eq]
  exact ⟨fun h field => h field (mem_identityFields field), fun h field _ => h field⟩

end WorkflowDrivers
