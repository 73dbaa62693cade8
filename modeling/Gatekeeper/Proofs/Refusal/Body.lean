import Gatekeeper.Proofs.Json.RoundTrip
import Gatekeeper.Refusal.Writer

namespace Gatekeeper

open Http (Headers HeaderValue StatusCode)
open Json (parse?)

variable {e e' : AuthError}

namespace Http.StatusCode

theorem code_injective {s s' : StatusCode} (same : s.code = s'.code) : s = s' := by
  cases s
  cases s'
  cases same
  rfl

/-- A status code is a number that fits. -/
theorem number_whole (s : StatusCode) : (Json.Number.whole s.code).Whole := by
  have least : Json.Number.least ≤ 0 := by decide
  have greatest : 999 ≤ Json.Number.greatest := by decide
  have := s.inRange
  constructor <;> omega

end Http.StatusCode

namespace Writer

theorem fromUTF8?_toUTF8 (s : String) : String.fromUTF8? s.toUTF8 = some s := by
  have valid : s.toUTF8.IsValidUTF8 := s.isValidUTF8
  exact dif_pos valid

theorem errorBody_whole (e : AuthError) : (errorBody e).Whole := by
  apply Json.Value.Whole.object
  intro m member
  simp only [List.mem_cons, List.not_mem_nil, or_false] at member
  rcases member with rfl | rfl | rfl
  · exact .number e.status.number_whole
  · exact .string _
  · exact .string _

/-- The body is text, and the text is read as the members that were written. -/
theorem body_decodes (e : AuthError) :
    (String.fromUTF8? (json.write e).body).bind parse? = some (errorBody e) := by
  have text : String.fromUTF8? (json.write e).body = some (errorBody e).compact :=
    fromUTF8?_toUTF8 _
  rw [text, Option.bind_some]
  exact Json.parse?_compact (errorBody_whole e)

theorem errorBody_injective (same : errorBody e' = errorBody e) :
    e'.message = e.message ∧ e'.status = e.status := by
  simp only [errorBody, Json.Value.object.injEq, List.cons.injEq, Prod.mk.injEq, true_and,
    and_true, Json.Value.number.injEq, Json.Number.whole.injEq, Json.Value.string.injEq,
    Int.natCast_inj] at same
  exact ⟨same.2.2, StatusCode.code_injective same.1⟩

theorem write_congr (message : e'.message = e.message) (status : e'.status = e.status) :
    json.write e' = json.write e := by
  simp only [json, errorBody, message, status]

end Writer

namespace AuthError

theorem status_code (e : AuthError) :
    e.status.code = (e.statusHint.map (·.code)).getD 500 := by
  unfold status
  cases e.statusHint <;> rfl

end AuthError

/-- Whatever the message holds, the body is text that is read as an object of three members: the
code, which is the status of the response too, the phrase of the code, and the message as it was.
So errors that differ in their message or in their status never get the same body. -/
theorem Writer.json_decodes (e : AuthError) :
    let response := Writer.json.write e
    let code (e : AuthError) : Nat := (e.statusHint.map (·.code)).getD 500
    (∃ text, String.fromUTF8? response.body = some text ∧
      parse? text = some (.object
        [("code", .number (.whole (code e))), ("reason", .string (response.status.phrase?.getD "")),
         ("message", .string e.message)])) ∧
    response.status.code = code e ∧
    (response.headers.values "content-type").map HeaderValue.text? = [some "application/json"] ∧
    (∀ e', (Writer.json.write e').body = response.body →
      e'.message = e.message ∧ code e' = code e) ∧
    ∀ e', Writer.json.write e' = response ↔ e'.message = e.message ∧ code e' = code e := by
  intro response code
  have effective (e : AuthError) : e.status.code = code e := e.status_code
  have body : String.fromUTF8? response.body = some (errorBody e).compact := fromUTF8?_toUTF8 _
  have type : response.headers.values "content-type" = [HeaderValue.ofText "application/json"] :=
    Headers.values_insert [] _ _
  have apart (e' : AuthError) (same : (Writer.json.write e').body = response.body) :
      e'.message = e.message ∧ code e' = code e := by
    have read' := body_decodes e'
    rw [same, body_decodes e] at read'
    obtain ⟨message, status⟩ := errorBody_injective (Option.some.inj read').symm
    rw [← effective, ← effective, status]
    exact ⟨message, rfl⟩
  refine ⟨⟨_, body, ?_⟩, effective e, ?_, apart, ?_⟩
  · rw [← effective]
    exact Json.parse?_compact (errorBody_whole e)
  · rw [type]
    decide +kernel
  · intro e'
    constructor
    · intro same
      exact apart e' (congrArg (·.body) same)
    · rintro ⟨message, same⟩
      rw [← effective, ← effective] at same
      exact write_congr message (StatusCode.code_injective same)

end Gatekeeper
