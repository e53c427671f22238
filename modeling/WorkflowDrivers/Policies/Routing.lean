import WorkflowDrivers.Lib.Text
import WorkflowDrivers.Lib.Replay
import WorkflowDrivers.Models.Records
import Mathlib.Data.List.Dedup
import Mathlib.Data.List.Nodup
import Mathlib.Data.List.Perm.Basic

/-!
# `Policies.Routing` — who owns a blocker and who acts for a role

`escalation.py` names the owner of a blocker by its category. A runtime profile (`models.py`, `runtime_profiles.py`)
binds roles to actors, each role at most once, so that a lookup does not depend on the order of the bindings.
-/

namespace WorkflowDrivers
open Lib StrEnum

/-- `escalation_owner`: developer and process judgment goes to El-Le, human authority to zo-el. -/
def Blocker.escalationOwner (blocker : Blocker) : DriverActor :=
  if blocker.category ∈ [.developer, .process, .external] then .elLe else .zoEl

/-! ## Runtime profiles -/

inductive ActorKind
  | agent | human | service
  deriving DecidableEq, Repr

structure RoleBinding where
  role : WorkflowRole
  actor : String
  kind : ActorKind
  adapter : String
  deriving DecidableEq

/-- `require_unique_roles`. -/
def requireUniqueRoles (roleBindings : List RoleBinding) : Except String (List RoleBinding) :=
  let roles := roleBindings.map RoleBinding.role
  if roles.length ≠ roles.dedup.length then .error "runtime profiles must bind each role at most once"
  else .ok roleBindings

/-- A profile that was built: its validator has accepted the bindings. -/
structure RuntimeProfile where
  profileId : String
  version : String
  description : String
  roleBindings : List RoleBinding
  uniqueRoles : requireUniqueRoles roleBindings = .ok roleBindings

namespace RuntimeProfile
variable (profile : RuntimeProfile)

def actorFor (role : WorkflowRole) : Except String String :=
  match profile.roleBindings.find? (fun binding => binding.role == role) with
  | some binding => .ok binding.actor
  | none => .error ("role is not bound in this profile: " ++ value role)

/-- The roles a profile binds. -/
def boundRoles : List WorkflowRole := profile.roleBindings.map RoleBinding.role

end RuntimeProfile

/-- Raise if the profile does not bind every required role. -/
def requireBoundRoles (profile : RuntimeProfile) (roles : List WorkflowRole) : Except String Unit :=
  let missing := roles.filter (fun role => !profile.boundRoles.contains role)
  if missing ≠ [] then
    -- the missing roles are a set, whose values are sorted
    let missingNames := ", ".intercalate (sortedDifference (missing.map value) [])
    .error ("runtime profile is missing required role binding(s): " ++ missingNames)
  else .ok ()

/-! ## Lookups -/

/-- The validator accepts the bindings whose roles are different. -/
theorem requireUniqueRoles_eq_ok {roleBindings : List RoleBinding} :
    requireUniqueRoles roleBindings = .ok roleBindings ↔ (roleBindings.map RoleBinding.role).Nodup := by
  unfold requireUniqueRoles
  rw [← List.dedup_eq_self]
  simp only [guard_eq_ok, and_true, not_not]
  constructor
  · intro hlength
    exact (List.dedup_sublist _).eq_of_length hlength.symm
  · intro hdedup
    rw [hdedup]

/-- Where keys are different, a search by key finds the only element with the key. -/
theorem find?_key_eq_some {α κ : Type} [DecidableEq κ] {key : α → κ} {items : List α} (hkeys : (items.map key).Nodup)
    {k : κ} {a : α} : items.find? (fun b => key b == k) = some a ↔ a ∈ items ∧ key a = k := by
  constructor
  · intro h
    exact ⟨List.mem_of_find?_eq_some h, by simpa using List.find?_some h⟩
  · rintro ⟨hmem, rfl⟩
    induction items with
    | nil => cases hmem
    | cons b rest ih =>
        obtain ⟨hfresh, hrest⟩ := List.nodup_cons.mp hkeys
        rcases List.mem_cons.mp hmem with rfl | hlater
        · rw [List.find?_cons_of_pos (by simp)]
        · have hne : key b ≠ key a := fun hsame => hfresh (hsame ▸ List.mem_map_of_mem hlater)
          rw [List.find?_cons_of_neg (by simpa using hne)]
          exact ih hrest hlater

section
variable {profile : RuntimeProfile} {role : WorkflowRole} {roles : List WorkflowRole} {actor : String}

/-- The actor for a role is that of its binding. -/
theorem actorFor_eq_ok : profile.actorFor role = .ok actor
    ↔ ∃ binding ∈ profile.roleBindings, binding.role = role ∧ binding.actor = actor := by
  have hkeys := requireUniqueRoles_eq_ok.mp profile.uniqueRoles
  unfold RuntimeProfile.actorFor
  cases hfind : profile.roleBindings.find? (fun binding => binding.role == role) with
  | some binding =>
      obtain ⟨hmem, hrole⟩ := (find?_key_eq_some hkeys).mp hfind
      constructor
      · intro h
        exact ⟨binding, hmem, hrole, Except.ok.inj h⟩
      · rintro ⟨b, hb, hbrole, rfl⟩
        obtain rfl : binding = b := Option.some.inj (hfind.symm.trans ((find?_key_eq_some hkeys).mpr ⟨hb, hbrole⟩))
        rfl
  | none =>
      constructor
      · intro h
        cases h
      · rintro ⟨b, hb, hbrole, -⟩
        exact absurd hbrole (by simpa using List.find?_eq_none.mp hfind b hb)

/-- A role that is not bound is an error that names it. -/
theorem actorFor_eq_error (h : role ∉ profile.boundRoles) :
    profile.actorFor role = .error ("role is not bound in this profile: " ++ value role) := by
  have hnone : profile.roleBindings.find? (fun binding => binding.role == role) = none := by
    rw [List.find?_eq_none]
    intro binding hbinding hrole
    exact h (List.mem_map.mpr ⟨binding, hbinding, by simpa using hrole⟩)
  rw [RuntimeProfile.actorFor, hnone]

/-- A role has an actor exactly when it is bound. -/
theorem exists_actorFor : (∃ actor, profile.actorFor role = .ok actor) ↔ role ∈ profile.boundRoles := by
  simp only [actorFor_eq_ok, RuntimeProfile.boundRoles, List.mem_map]
  constructor
  · rintro ⟨actor, binding, hbinding, hrole, -⟩
    exact ⟨binding, hbinding, hrole⟩
  · rintro ⟨binding, hbinding, hrole⟩
    exact ⟨binding.actor, binding, hbinding, hrole, rfl⟩

theorem requireBoundRoles_eq_ok :
    requireBoundRoles profile roles = .ok () ↔ ∀ role ∈ roles, role ∈ profile.boundRoles := by
  unfold requireBoundRoles
  simp only [guard_eq_ok, and_true, not_not, List.filter_eq_nil_iff]
  constructor
  · intro h role hrole
    simpa using h role hrole
  · intro h role hrole
    simpa using h role hrole

end

end WorkflowDrivers
