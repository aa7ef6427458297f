import RoomRelay.Proofs.Validation.Rules

/-!
`Accepted` states what a request that passes `validate` guarantees for its payload, its rooms and its
caller.
-/
namespace RoomRelay.SendRequest

/-- What is known of a request that `validate` accepts. -/
structure Accepted (req : SendRequest) (caller : String) (policy : StatusPolicy)
    (payload : Payload) : Prop where
  some_room : req.rooms ≠ []
  once : req.rooms.Nodup
  segments : ∀ room ∈ req.rooms, Topic.isSegment room = true
  named : Topic.isSegment caller = true
  publishable : ∃ kind, payload.kind? = some kind
  drawn : ∀ d, payload = .drawing d → ∃ n, d.samples = some n
  reserved : policy = .reject → ∃ d, payload = .drawing d

theorem Valid.accepted {req : SendRequest} {caller : String} {policy : StatusPolicy}
    {payload : Payload} (valid : req.Valid caller policy payload) :
    req.Accepted caller policy payload := by
  obtain ⟨e, -, -, -, -, -, carries⟩ := valid.event
  refine ⟨valid.some_room, valid.once, ?segments, Topic.isSegment_iff.mpr valid.caller, ?publishable,
    ?drawn, ?reserved⟩
  case segments => exact fun room member => Topic.isSegment_iff.mpr (valid.rooms room member)
  case publishable => cases carries <;> exact ⟨_, rfl⟩
  case drawn =>
    rintro d rfl
    cases carries with
    | drawing _ _ _ _ sampled =>
      have some := Wire.Drawing.sampled_iff.mpr sampled
      rw [Option.isNone_eq_false_iff] at some
      exact Option.isSome_iff_exists.mp some
  case reserved =>
    rintro rfl
    cases carries with
    | drawing => exact ⟨_, rfl⟩
    | userJoined _ _ _ allowed => cases allowed
    | userLeft _ _ _ allowed => cases allowed

theorem accepted_of_validate {req : SendRequest} {caller : String} {policy : StatusPolicy}
    {payload : Payload} (valid : req.validate caller policy = .ok payload) :
    req.Accepted caller policy payload :=
  (valid_of_validate valid).accepted

end RoomRelay.SendRequest
