import NexoIm.Router

/-!
# Trace ids (`trace_id.go`)

`TraceID` gives a request its trace id: the first non-blank of the `Trace-Id` header, the
`X-Trace-Id` header, the `operation_id` query parameter and the trace id the context already
carries, each trimmed, and otherwise a fresh UUID without its dashes. It puts the id into the
context and into both trace headers of the request, so that handlers reading the headers see
the same value, and sets both response headers before and after the handlers run.

* `getTraceId`, `withTraceId`, `resolveTraceId`, `traceId`; `uuid.NewString()` is a parameter
  with the characters `UuidChars` states;
* every resolved id is non-empty and trimmed (`resolveTraceId_trimmed`);
* what `TraceID` hands on reads back the same id: from the context, from the request's
  headers by resolving again, and from the response headers whatever the handlers wrote
  there (`traceId_consistent`); the request's other headers are untouched
  (`getHeader_traceId_request`), and `CORS()` lets a browser send both trace headers
  (`corsAllowHeaders_trace`).
-/

namespace NexoIm

def traceIdHeader : String := "Trace-Id"
def xTraceIdHeader : String := "X-Trace-Id"

/-- A browser may send both trace headers: `CORS()` allows them. -/
theorem corsAllowHeaders_trace :
    ∀ h ∈ [traceIdHeader, xTraceIdHeader],
      h ∈ (corsAllowHeaders.toList.splitOn ',').map fun name => trimSpace ⟨name⟩ := by
  decide

/-- `GetTraceID`, the context being the string its `trace_id` value holds (`none` for a nil
context, no value, or a value that is not a string). -/
def getTraceId (ctx : Option String) : String :=
  match ctx with
  | some traceId => trimSpace traceId
  | none => ""

/-- `WithTraceID`. -/
def withTraceId (ctx : Option String) (traceId : String) : Option String :=
  let traceId := trimSpace traceId
  if traceId = "" then ctx else some traceId

/-- `resolveTraceID`; `operationId` is `c.Query("operation_id")` and `newUuid` is
`uuid.NewString()`. -/
def resolveTraceId (ctx : Option String) (c : RequestContext) (operationId newUuid : String) :
    String :=
  let traceId := trimSpace (c.getHeader traceIdHeader)
  let traceId := if traceId = "" then trimSpace (c.getHeader xTraceIdHeader) else traceId
  let traceId := if traceId = "" then trimSpace operationId else traceId
  let traceId := if traceId = "" then getTraceId ctx else traceId
  if traceId = "" then replaceAll newUuid '-' "" else traceId

/-- `Header.Set(key, value)`: `value` becomes the header's only value. -/
def setHeader (headers : List (String × String)) (key value : String) : List (String × String) :=
  (key, value) :: headers.filter (·.1 ≠ key)

/-- What `TraceID` hands to the next handlers: the context, the value it stores under
`trace_id`, and the request with both trace headers set. -/
structure TraceIdContext where
  ctx : Option String
  traceId : String
  request : RequestContext

/-- `TraceID`: what the handlers get, and the response headers at the end, `next` being what
the handlers do to the response headers. -/
def traceId (ctx : Option String) (c : RequestContext) (operationId newUuid : String)
    (response : List (String × String))
    (next : TraceIdContext → List (String × String) → List (String × String)) :
    TraceIdContext × List (String × String) :=
  let traceId := resolveTraceId ctx c operationId newUuid
  let handed : TraceIdContext := ⟨withTraceId ctx traceId, traceId,
    { c with headers := setHeader (setHeader c.headers traceIdHeader traceId) xTraceIdHeader traceId }⟩
  let response := setHeader (setHeader response traceIdHeader traceId) xTraceIdHeader traceId
  let response := next handed response
  (handed, setHeader (setHeader response traceIdHeader traceId) xTraceIdHeader traceId)

/-! ### Headers -/

theorem lookup_setHeader (headers : List (String × String)) (key value key' : String) :
    ((setHeader headers key value).find? fun h => decide (h.1 = key')).map (·.2) =
      if key = key' then some value else (headers.find? fun h => decide (h.1 = key')).map (·.2) := by
  unfold setHeader
  split_ifs with hk
  · simp [hk]
  · rw [List.find?_cons_of_neg _ (by simpa using hk), List.find?_filter]
    congr 2
    funext h
    by_cases h2 : h.1 = key'
    · simp [h2, Ne.symm hk]
    · simp [h2]

/-! ### The resolved id -/

/-- What the trace id needs of `uuid.NewString()`, which writes
`xxxxxxxx-xxxx-xxxx-xxxx-xxxxxxxxxxxx` in lower-case hex: only hex digits and dashes, and a
digit among them. -/
def UuidChars (u : String) : Prop :=
  (∀ c ∈ u.toList, c = '-' ∨ ∃ n < 16, hexDigit n = c) ∧ ∃ c ∈ u.toList, c ≠ '-'

instance : DecidablePred UuidChars := fun _ => inferInstanceAs (Decidable (_ ∧ _))

theorem replaceAll_uuid_trimmed {u : String} (hu : UuidChars u) :
    replaceAll u '-' "" ≠ "" ∧ trimSpace (replaceAll u '-' "") = replaceAll u '-' "" := by
  obtain ⟨hchars, c, hc, hcd⟩ := hu
  have hsp : ∀ d ∈ (replaceAll u '-' "").toList, isSpace d = false := by
    intro d hd
    rw [replaceAll_empty, List.mem_filter] at hd
    rcases hchars d hd.1 with rfl | ⟨n, hn, rfl⟩
    · exact absurd hd.2 (by decide)
    · exact not_isSpace_hexDigit hn
  have hmem : c ∈ (replaceAll u '-' "").toList := by
    rw [replaceAll_empty, List.mem_filter]
    exact ⟨hc, decide_eq_true hcd⟩
  refine ⟨fun he => ?_, trimSpace_eq_self hsp⟩
  rw [he] at hmem
  exact List.not_mem_nil c hmem

theorem trimSpace_getTraceId (ctx : Option String) : trimSpace (getTraceId ctx) = getTraceId ctx := by
  cases ctx with
  | none => rfl
  | some t => exact trimSpace_trimSpace t

/-- Whatever the request, a resolved trace id is non-empty and trimmed. -/
theorem resolveTraceId_trimmed (ctx : Option String) (c : RequestContext) (operationId : String)
    {newUuid : String} (hu : UuidChars newUuid) :
    resolveTraceId ctx c operationId newUuid ≠ "" ∧
      trimSpace (resolveTraceId ctx c operationId newUuid) =
        resolveTraceId ctx c operationId newUuid := by
  dsimp only [resolveTraceId]
  split_ifs with h₁ h₂ h₃ h₄
  · exact replaceAll_uuid_trimmed hu
  · exact ⟨h₄, trimSpace_getTraceId ctx⟩
  · exact ⟨h₃, trimSpace_trimSpace _⟩
  · exact ⟨h₂, trimSpace_trimSpace _⟩
  · exact ⟨h₁, trimSpace_trimSpace _⟩

/-- A trimmed, non-empty `Trace-Id` header is the trace id. -/
theorem resolveTraceId_of_header {ctx : Option String} {c : RequestContext}
    {operationId newUuid : String} (h : trimSpace (c.getHeader traceIdHeader) ≠ "") :
    resolveTraceId ctx c operationId newUuid = trimSpace (c.getHeader traceIdHeader) := by
  simp only [resolveTraceId, if_neg h]

example : resolveTraceId none ⟨[("X-Trace-Id", " t1 ")], "GET", "/user/info", []⟩ "" "" = "t1" := by
  decide

/-! ### What `TraceID` hands on -/

/-- `TraceID` leaves every other header of the request as it was. -/
theorem getHeader_traceId_request (ctx : Option String) (c : RequestContext)
    (operationId newUuid : String) (response : List (String × String))
    (next : TraceIdContext → List (String × String) → List (String × String)) {key : String}
    (h₁ : key ≠ traceIdHeader) (h₂ : key ≠ xTraceIdHeader) :
    (traceId ctx c operationId newUuid response next).1.request.getHeader key = c.getHeader key := by
  simp only [traceId, RequestContext.getHeader, lookup_setHeader, if_neg (Ne.symm h₁),
    if_neg (Ne.symm h₂)]

/-- **One trace id throughout.** With `uuid.NewString()` as it is, the id `TraceID` stores is
non-empty; `GetTraceID` of the context the handlers get returns it; resolving again from the
request they get returns it, whatever the context, query and UUID then; and both trace
headers of the request and of the final response carry it, whatever the handlers wrote. -/
theorem traceId_consistent (ctx : Option String) (c : RequestContext) (operationId : String)
    {newUuid : String} (hu : UuidChars newUuid) (response : List (String × String))
    (next : TraceIdContext → List (String × String) → List (String × String)) :
    let r := traceId ctx c operationId newUuid response next
    r.1.traceId ≠ "" ∧ getTraceId r.1.ctx = r.1.traceId ∧
      (∀ ctx' operationId' newUuid', resolveTraceId ctx' r.1.request operationId' newUuid' =
        r.1.traceId) ∧
      r.1.request.getHeader traceIdHeader = r.1.traceId ∧
      r.1.request.getHeader xTraceIdHeader = r.1.traceId ∧
      (r.2.find? fun h => decide (h.1 = traceIdHeader)).map (·.2) = some r.1.traceId ∧
      (r.2.find? fun h => decide (h.1 = xTraceIdHeader)).map (·.2) = some r.1.traceId := by
  obtain ⟨hne, htrim⟩ := resolveTraceId_trimmed ctx c operationId hu
  dsimp only [traceId]
  generalize resolveTraceId ctx c operationId newUuid = t at hne htrim ⊢
  have hxt : xTraceIdHeader ≠ traceIdHeader := by decide
  have ht : ({ c with headers := setHeader (setHeader c.headers traceIdHeader t) xTraceIdHeader t } :
      RequestContext).getHeader traceIdHeader = t := by
    simp only [RequestContext.getHeader, lookup_setHeader, if_neg hxt, if_true, Option.getD_some]
  refine ⟨hne, ?_, fun ctx' operationId' newUuid' => ?_, ht, ?_, ?_, ?_⟩
  · simp only [withTraceId, htrim, if_neg hne, getTraceId]
  · rw [resolveTraceId_of_header (by rw [ht, htrim]; exact hne), ht, htrim]
  · simp only [RequestContext.getHeader, lookup_setHeader, if_true, Option.getD_some]
  · simp only [lookup_setHeader, if_neg hxt, if_true]
  · simp only [lookup_setHeader, if_true]

theorem traceId_consistent_uuid :
    UuidChars "123e4567-e89b-12d3-a456-426614174000" ∧
    let r := traceId none ⟨[], "GET", "/user/info", []⟩ "" "123e4567-e89b-12d3-a456-426614174000"
      [] (fun _ response => response)
    r.1.traceId ≠ "" ∧ getTraceId r.1.ctx = r.1.traceId ∧
      (∀ ctx' operationId' newUuid', resolveTraceId ctx' r.1.request operationId' newUuid' =
        r.1.traceId) ∧
      r.1.request.getHeader traceIdHeader = r.1.traceId ∧
      r.1.request.getHeader xTraceIdHeader = r.1.traceId ∧
      (r.2.find? fun h => decide (h.1 = traceIdHeader)).map (·.2) = some r.1.traceId ∧
      (r.2.find? fun h => decide (h.1 = xTraceIdHeader)).map (·.2) = some r.1.traceId :=
  have hu : UuidChars "123e4567-e89b-12d3-a456-426614174000" := by decide
  ⟨hu, traceId_consistent none ⟨[], "GET", "/user/info", []⟩ "" hu [] (fun _ response => response)⟩

end NexoIm
