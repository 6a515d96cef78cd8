import MemoryLab.Verification.Mcp.Secrets

/-! # Errors for two bodies that differ in their secrets -/

namespace MemoryLab.McpClient

open Library Library.Json

/-- The keys whose values are secret, in any letter case. -/
def isSecretKey (name : Text) : Bool :=
  Text.lower name ∈ ["token", "api_key", "api-key", "apikey", "key", "secret", "password",
    "authorization"].map String.toList

section Errors

variable (Params Json Payload : Type)

/-- Whatever the request, the errors for two bodies of one status have one message and one
body. -/
def SameErrors (client : MemoryLabApiClient) (body other : Text) : Prop :=
  ∀ (statusCode : ℕ), statusCode < 200 ∨ statusCode ≥ 300 →
    ∀ (decoded decodedOther : Option Payload) (method path : Text) (params : Option Params)
      (jsonBody : Option Json) (workspaceId : Option Text) (e e' : MemoryLabApiError),
      client.request (fun _ => .response statusCode body decoded) method path params jsonBody
        workspaceId = .error e →
      client.request (fun _ => .response statusCode other decodedOther) method path params jsonBody
        workspaceId = .error e' →
      e.message = e'.message ∧ e.body = e'.body

/-- No two documents of one length that differ in the strings of their holes are told apart. -/
def HidesSecrets (client : MemoryLabApiClient) (d : Document isSecretKey) : Prop :=
  ∀ values others, Fills d.template values → Fills d.template others →
    (fill d.template values).length = (fill d.template others).length →
    SameErrors Params Json Payload client (fill d.template values) (fill d.template others)

variable {Params Json Payload}

/-- A response outside 200 to 299 raises an error that holds the redacted start of its body. -/
theorem request_of_response {client : MemoryLabApiClient}
    (hopen : client.failClosedReason.filter (· ≠ []) = none) {statusCode : ℕ}
    (hstatus : statusCode < 200 ∨ statusCode ≥ 300) (body : Text) (decoded : Option Payload)
    (method path : Text) (params : Option Params) (jsonBody : Option Json)
    (workspaceId : Option Text) :
    client.request (fun _ => .response statusCode body decoded) method path params jsonBody
        workspaceId =
      .error
        { message := "Non-2xx from ".toList ++ method ++ " ".toList ++ (client.baseUrl ++ path) ++
            ": ".toList ++ (toString statusCode).toList ++ " body=".toList ++
            (redact (body.take 2000)).take 500
          method := some method
          url := some (client.baseUrl ++ path)
          statusCode := some statusCode
          body := some (redact (body.take 2000)) } := by
  rw [MemoryLabApiClient.request, hopen]
  simp only [hstatus, if_true]

theorem request_of_failClosed {client : MemoryLabApiClient} {reason : Text}
    (hclosed : client.failClosedReason.filter (· ≠ []) = some reason)
    (send : HttpRequest Params Json → HttpOutcome Payload)
    (method path : Text) (params : Option Params) (jsonBody : Option Json)
    (workspaceId : Option Text) :
    client.request send method path params jsonBody workspaceId =
      .error
        { message := reason, method := some method, url := some (client.baseUrl ++ path) } := by
  rw [MemoryLabApiClient.request, hclosed]

theorem sameErrors_of_failClosed {client : MemoryLabApiClient}
    (hclosed : client.failClosedReason.filter (· ≠ []) ≠ none) (body other : Text) :
    SameErrors Params Json Payload client body other := by
  obtain ⟨reason, hreason⟩ := Option.ne_none_iff_exists'.mp hclosed
  intro statusCode _ decoded decodedOther method path params jsonBody workspaceId e e' he he'
  rw [request_of_failClosed hreason, Except.error.injEq] at he he'
  rw [← he, ← he']
  exact ⟨rfl, rfl⟩

/-- The errors tell of a body what the redaction of its start tells. -/
theorem sameErrors_iff {client : MemoryLabApiClient}
    (hopen : client.failClosedReason.filter (· ≠ []) = none) {body other : Text} :
    SameErrors Params Json Payload client body other ↔
      redact (body.take 2000) = redact (other.take 2000) := by
  constructor
  · intro h
    have hsame := h 500 (by omega) none none [] [] none none none _ _
      (request_of_response hopen (by omega) body none [] [] none none none)
      (request_of_response hopen (by omega) other none [] [] none none none)
    exact Option.some.inj hsame.2
  · intro h statusCode hstatus decoded decodedOther method path params jsonBody workspaceId e e'
      he he'
    rw [request_of_response hopen hstatus, Except.error.injEq] at he he'
    rw [← he, ← he', h]
    exact ⟨rfl, rfl⟩

end Errors

/-! ## A secret at the cut -/

/-- A secret of some length whose last character is given. -/
def endingWith (n : ℕ) (c : Char) : Text := List.replicate n 'a' ++ [c]

theorem isPlain_endingWith {n : ℕ} {c : Char} (hc : isPlain c = true) :
    ∀ d ∈ endingWith n c, isPlain d = true := by
  intro d hd
  rcases List.mem_append.mp hd with hd | hd
  · rw [List.eq_of_mem_replicate hd]
    decide
  · rwa [List.mem_singleton.mp hd]

theorem fills_endingWith {s : Text} {l : Template} (n : ℕ) {c : Char} (hc : isPlain c = true) :
    Fills (solid s ++ none :: l) (endingWith n c :: List.replicate (l.count none) ['a']) where
  length_eq := by
    have hsolid : (solid s).count none = 0 := by
      rw [List.count_eq_zero]
      simp [solid]
    simp [List.count_append, hsolid]
  string := by
    intro value hvalue
    rcases List.mem_cons.mp hvalue with rfl | hvalue
    · exact ⟨by simp [endingWith], _, stringBody_of_isPlain (isPlain_endingWith hc)⟩
    · rw [List.eq_of_mem_replicate hvalue]
      exact ⟨by simp, _, stringBody_of_isPlain (List.all_eq_true.mp (by decide))⟩

/-- The blank at the cut is the last character of the error's body. -/
theorem getLast?_redact_fill {s : Text} (hs : s.length < 2000) (l : Template)
    (values : List Text) {c : Char} (hc : Text.isSpace c = true) :
    (redact ((fill (solid s ++ none :: l) (endingWith (1999 - s.length) c :: values)).take
      2000)).getLast? = some c := by
  apply getLast?_redact hc
  have hlength : (s ++ endingWith (1999 - s.length) c).length = 2000 := by
    simp only [List.length_append, endingWith, List.length_replicate, List.length_singleton]
    omega
  rw [fill_solid_append, fill, ← List.append_assoc, List.take_left' hlength, endingWith]
  simp

section Law

variable {Params Json Payload : Type}

end Law

/-! ## An escaped quote -/

/-- A token and nothing else. -/
def tokenDocument : Document isSecretKey where
  template := solid "\x7b\"token\":\"".toList ++ none :: solid "\"\x7d".toList
  wellFormed := by
    refine ⟨[], solid "\x7b\"token\":\"".toList ++ none :: solid "\"\x7d".toList, [],
      by simp [IsBlank], by simp [IsBlank], ?_, by simp [solid]⟩
    have hkey : StringBody "token".toList "token".toList := stringBody_of_isPlain (List.all_eq_true.mp (by decide))
    have hblank : IsBlank [] := by simp [IsBlank]
    exact .object (.hole hblank hkey (by decide) hblank hblank hblank)

end MemoryLab.McpClient
