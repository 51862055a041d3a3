import InferForge.Host

/-! The resource owner of a run's environment handoffs. -/
namespace InferForge
open Py

def isUserChar (c : CodePoint) : Bool := (97 ≤ c.val && c.val ≤ 122) || (48 ≤ c.val && c.val ≤ 57)

/-- `[a-z0-9](?:[a-z0-9.-]*[a-z0-9])?`. -/
def isUserId (t : Text) : Bool :=
  t.codes.head?.any isUserChar && t.codes.getLast?.any isUserChar &&
    t.codes.all fun c => isUserChar c || c.val == 46 || c.val == 45

/-- `resolve_user_id` of a value that is given, so the environment is not consulted. -/
def resolveUserId : Json → Except Exn Text
  | .str value =>
      if value.strip.isEmpty || isUserId value.strip then .ok value.strip
      else .error (.value
        "user_id must contain lowercase letters, digits, and internal '-' or '.'")
  | _ => .error (.value "user_id must be a string supplied by the user")

theorem isUserChar_visible {c : CodePoint} (user : isUserChar c = true) :
    Text.isSpace c = false := by
  simp only [isUserChar, Bool.or_eq_true, Bool.and_eq_true, decide_eq_true_eq] at user
  simp only [Text.isSpace, Bool.or_eq_false_iff, Bool.and_eq_false_iff, decide_eq_false_iff_not,
    beq_eq_false_iff_ne, ne_eq]
  omega

theorem isUserId_strip {t : Text} (valid : isUserId t = true) : t.strip = t := by
  simp only [isUserId, Bool.and_eq_true] at valid
  obtain ⟨⟨first, last⟩, _⟩ := valid
  apply Text.strip_of_bounds
  · intro c starts
    rw [starts] at first
    exact isUserChar_visible first
  · intro c ends
    rw [ends] at last
    exact isUserChar_visible last

/-- A resolved user id resolves to itself. -/
theorem resolveUserId_idem (ok : resolveUserId v = .ok u) : resolveUserId (.str u) = .ok u := by
  cases v with
  | str value =>
    simp only [resolveUserId] at ok
    split at ok
    · next accepted =>
      obtain rfl := Except.ok.inj ok
      have again : value.strip.strip = value.strip := by
        rcases Bool.or_eq_true_iff.mp accepted with empty | valid
        · apply Text.strip_of_bounds <;> simp_all [Text.isEmpty]
        · exact isUserId_strip valid
      simp only [resolveUserId, again, if_pos accepted]
    · cases ok
  | _ => cases ok

/-- The owner one recorded handoff names, if it names one. -/
def handoffOwner (environment : Dict) (key : Text) : Except Exn (Option Text) :=
  match environment.get? key with
  | some (.obj handoff) =>
      let recorded := Dict.getD handoff "user_id" .null
      if recorded.truthy then (resolveUserId recorded).map some else .ok none
  | _ => .ok none

/-- `environment_user_id`: successful and failed handoffs stay under one owner. -/
def environmentUserId (environment : Dict) (supplied : Json) : Except Exn (Option Text) := do
  let bound ← handoffOwner environment "environment_proof"
  let failed ← handoffOwner environment "failed_environment_proof"
  let owner := bound <|> failed
  if bound.isSome && failed.isSome && bound != failed then
    throw (.value "environment handoffs contain conflicting user_id values")
  else
    let requested ← if supplied.isNull then pure none else (resolveUserId supplied).map some
    if owner.any (fun o => !o.isEmpty) && requested.isSome && requested != owner then
      throw (.value "user_id does not match the recorded environment owner")
    else return owner <|> requested

end InferForge
