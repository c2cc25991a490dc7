import NexoIm.Go.Int64

/-!
# Actor ids in the SDK (`sdk/actor.go`)

The SDK converts between numeric user and agent ids and the IM user-id strings of
`common.Actor`. The conversions themselves, `Actor.ToIMUserId` and `Actor.FromIMUserId`,
live in the `common` package, which is not among the sources: they are parameters here.

* `getUserActorUserId`, `getAgentActorUserId` and their list forms;
* `mGetActorFromUserIds`, whose loop parses every id and stops at the first error, but
  never appends the parsed actor to `ret`: on success it returns the empty list
  (`mGetActorFromUserIds_eq`), where its test expects one actor per id.
-/

namespace NexoIm

/-- `common.Role`. -/
inductive Role
  | roleUser
  | roleAgent
  deriving DecidableEq, Repr

/-- `common.Actor`. -/
structure Actor where
  id : Int64
  role : Role
  deriving DecidableEq

section

variable {E : Type} (toIMUserId : Actor → String × Option E)
  (fromIMUserId : String → Except E Actor)

/-- `GetUserActorUserId`: the string `ToIMUserId` returns, its error dropped. -/
def getUserActorUserId (userId : Int64) : String := (toIMUserId ⟨userId, .roleUser⟩).1

/-- `GetAgentActorUserId`. -/
def getAgentActorUserId (agentId : Int64) : String := (toIMUserId ⟨agentId, .roleAgent⟩).1

/-- `MGetUserActorUserIds`: one id appended per user. -/
def mGetUserActorUserIds (userIds : List Int64) : List String :=
  userIds.map (getUserActorUserId toIMUserId)

/-- `MGetAgentActorUserIds`. -/
def mGetAgentActorUserIds (agentIds : List Int64) : List String :=
  agentIds.map (getAgentActorUserId toIMUserId)

/-- The loop of `MGetActorFromUserIds` over the remaining ids, with the list `ret` it
returns; the parsed actor is dropped, so `ret` is never extended. -/
def mGetActorFromUserIdsLoop (ret : List Actor) : List String → Except E (List Actor)
  | [] => .ok ret
  | userId :: rest =>
    match fromIMUserId userId with
    | .error err => .error err
    | .ok _ => mGetActorFromUserIdsLoop ret rest

/-- `MGetActorFromUserIds`, from `var ret []*common.Actor`. -/
def mGetActorFromUserIds (userIds : List String) : Except E (List Actor) :=
  mGetActorFromUserIdsLoop fromIMUserId [] userIds

theorem mGetActorFromUserIdsLoop_eq (ret : List Actor) (userIds : List String) :
    mGetActorFromUserIdsLoop fromIMUserId ret userIds =
      (fun _ => ret) <$> userIds.mapM fromIMUserId := by
  induction userIds with
  | nil => rfl
  | cons u us ih =>
    simp only [mGetActorFromUserIdsLoop, List.mapM_cons, ih]
    cases fromIMUserId u <;> cases List.mapM fromIMUserId us <;> rfl

/-- **What `MGetActorFromUserIds` returns.** It fails with the error of the first id that
does not parse, and otherwise returns the empty list, whatever the ids. -/
theorem mGetActorFromUserIds_eq (userIds : List String) :
    mGetActorFromUserIds fromIMUserId userIds =
      (fun _ => []) <$> userIds.mapM fromIMUserId :=
  mGetActorFromUserIdsLoop_eq fromIMUserId [] userIds

end

end NexoIm
