import Gatekeeper.Proofs.Http.Login
import Gatekeeper.Proofs.Store.Handover

/-!
# A header is read alike by both readers

A store reads the header of a login strictly and as UTF-8, the service leniently and as
ASCII.  Whatever header of ASCII the store reads as credentials of ASCII, the service reads
as the same credentials: what is left in a payload that the strict reader accepts, padding
after a complete group and bits that are left over, means the same to both, and the blanks
around it mean nothing to either.  So the service answers a login with the header as the
store does.
-/

namespace Gatekeeper

open Store

namespace Http

variable {header : String} {payload line : List Char} {c : Credentials}

/-! ## Payloads -/

/-- A header that the store reads has a payload that holds the line of the credentials. -/
theorem exists_payload_of_parse (scheme : basicScheme.toList <+: header.toList)
    (unmarked : separator ∉ header.toList) (read : Credentials.parse header = .ok c) :
    ∃ payload line, header.toList = basicScheme.toList ++ payload ∧
      Credentials.decodeBasic payload = .ok line ∧ Credentials.ofPlainLine line = .ok c := by
  obtain ⟨payload, whole⟩ := scheme
  have basic : basicScheme.toList.isPrefixOf header.toList = true ∧ separator ∉ header.toList :=
    ⟨List.isPrefixOf_iff_prefix.mpr ⟨payload, whole⟩, unmarked⟩
  rw [Credentials.parse, Credentials.plainLine, if_pos basic, ← whole, List.drop_left] at read
  cases decoded : Credentials.decodeBasic payload with
  | error malformation =>
      rw [decoded] at read
      cases read
  | ok line =>
      rw [decoded] at read
      exact ⟨payload, line, whole.symm, decoded, read⟩

/-- What a payload holds for the store, if that is ASCII, it holds for the service. -/
theorem ofPayload?_of_decodeBasic (decoded : Credentials.decodeBasic payload = .ok line)
    (made : Credentials.ofPlainLine line = .ok c) (user : Text.IsAscii c.user.toList)
    (password : Text.IsAscii c.password.text.toList) :
    Authorization.ofPayload? (Text.trim Text.isBlank payload) = some c := by
  obtain ⟨formed, rfl⟩ := Credentials.of_ofPlainLine_eq_ok made
  have ascii : Text.IsAscii (c.user.toList ++ separator :: c.password.text.toList) := by
    rw [Text.IsAscii, List.forall_mem_append, List.forall_mem_cons]
    exact ⟨user, by decide, password⟩
  rw [Credentials.decodeBasic] at decoded
  cases strict : Codec.Base64.decodeStrict (Text.trim Text.isBlank payload) with
  | error fault =>
      rw [strict] at decoded
      cases decoded
  | ok bytes =>
      rw [strict] at decoded
      dsimp only at decoded
      cases text : Codec.Utf8.decode bytes with
      | error fault =>
          rw [text] at decoded
          cases decoded
      | ok other =>
          rw [text, Except.ok.injEq] at decoded
          obtain rfl := Codec.Utf8.decode_eq_ok_iff.mp (decoded ▸ text)
          rw [Authorization.ofPayload?, Codec.Base64.decodeLenient_of_decodeStrict strict]
          dsimp only
          rw [Authorization.ascii?_encode, if_pos ascii]
          dsimp only
          rw [Text.splitFirst?_append _ formed.2, Option.map_some, String.ofList_toList,
            String.ofList_toList]

/-- The service may as well leave the blanks around a payload where they are. -/
theorem ofPayload?_trim (small : Text.IsAscii payload) :
    Authorization.ofPayload? (Text.trim Text.isBlank payload) =
      Authorization.ofPayload? payload := by
  rw [Authorization.ofPayload?, Authorization.ofPayload?, Codec.Base64.decodeLenient_trim small]

theorem isAscii_trim (small : Text.IsAscii payload) :
    Text.IsAscii (Text.trim Text.isBlank payload) := by
  obtain ⟨before, after, whole, -⟩ := Text.exists_trim Text.isBlank payload
  rw [whole, Text.IsAscii, List.forall_mem_append, List.forall_mem_append] at small
  exact small.1.2

/-! ## Answers -/

inductive ReportsLogin (user : String) : Except Failure Value → Reply → Prop where
  | answered (granted : Bool) :
      ReportsLogin user (.ok (.flag granted))
        ⟨.ok 200 (Payload.loginResponse user granted).toJson, none⟩
  | unavailable (point : FailPoint) :
      ReportsLogin user (.error point.failure) ⟨.problem 503 point.failure.message, none⟩
  | broken {failure : Failure} (unforeseen : ∀ refusal, failure ≠ .refused refusal) :
      ReportsLogin user (.error failure) ⟨.internalError, some failure⟩

theorem reportsLogin_of_unforeseen {failure : Failure}
    (unforeseen : ∀ refusal, failure ≠ .refused refusal) :
    ReportsLogin c.user (.error failure) (.ofResult (.login c) (.error failure)) := by
  cases failure with
  | refused refusal => exact absurd rfl (unforeseen refusal)
  | _ => exact .broken unforeseen

/-- A login that is read is answered, or it fails on a fail point, or the stored password cannot
be compared. -/
theorem reportsLogin_result (s : Store) {presented : Presented}
    (read : presented.credentials = .ok c) :
    ReportsLogin c.user (s.act (.call (.login presented))).result
      (.ofResult (.login c) (s.act (.call (.login presented))).result) := by
  rw [result_act, outcome_login_defective, read]
  dsimp only
  split
  · exact .unavailable .getPassword
  · cases s.progress.backend.memory.users.get? c.user with
    | none => exact .answered false
    | some stored =>
        dsimp only
        cases matching : stored.matching c.password with
        | error failure => exact reportsLogin_of_unforeseen (ne_refused_of_matching matching)
        | ok equal =>
            cases equal with
            | false => exact .answered false
            | true =>
                dsimp only
                split
                · exact .unavailable .addSession
                · exact .answered true

/-! ## Headers -/

/-- A header of ASCII that the store reads as credentials of ASCII is read by the service as these
credentials, with the blanks around its payload or without them.  In every state of the store a
login with the header does then to the store what the store does with the header itself, and its
end is reported. -/
theorem header_read_alike (scheme : basicScheme.toList <+: header.toList)
    (unmarked : separator ∉ header.toList) (small : Text.IsAscii header.toList)
    (read : Credentials.parse header = .ok c) (user : Text.IsAscii c.user.toList)
    (password : Text.IsAscii c.password.text.toList) :
    (∃ payload, Text.splitFirst? ' ' header.toList = some ("Basic".toList, payload) ∧
      Authorization.ofPayload? payload = some c) ∧
    Authorization.ofHeader? header = some c ∧
    ∀ (s : Store) (r : Request), Route.find r.method r.path = .ok .login →
      r.header? "authorization" = some header →
      let direct := s.act (.call (.login (.line header)))
      ReportsLogin c.user direct.result (serve s r).reply ∧
        (serve s r).store = direct.store ∧ (serve s r).events = direct.events := by
  obtain ⟨payload, line, whole, decoded, made⟩ := exists_payload_of_parse scheme unmarked read
  have small_payload : Text.IsAscii payload := by
    rw [whole, Text.IsAscii, List.forall_mem_append] at small
    exact small.2
  have held := ofPayload?_of_decodeBasic decoded made user password
  have parts : header.toList = "Basic".toList ++ ' ' :: payload := whole
  have known : Authorization.ofHeader? header = some c := by
    rw [Authorization.ofHeader?_of_scheme whole, if_pos, held]
    rw [List.all_eq_true]
    exact fun c among => decide_eq_true (isAscii_trim small_payload c among)
  refine ⟨⟨payload, ?_, ?_⟩, known, ?_⟩
  · rw [parts, Text.splitFirst?_append _ (by decide)]
  · rw [← ofPayload?_trim small_payload, held]
  · intro s r entering authorized
    have presented : Authorization.credentials? r = some c := by
      rw [Authorization.credentials?, authorized]
      exact known
    have demanded : Http.read r = .ok (.login c) := by
      rw [read_login entering, presented]
    have formed := (Credentials.of_ofPlainLine_eq_ok made).1
    have pair : (Presented.pair c).credentials = .ok c := by
      rw [Presented.credentials, Credentials.check, UserId.check_of_wellFormed formed]
    have alike := s.act_login_congr
      (show (Presented.line header).credentials = (Presented.pair c).credentials from
        read.trans pair.symm)
    rw [serve_of_ok demanded, alike]
    exact ⟨reportsLogin_result s pair, rfl, rfl⟩

/-- A payload between blanks with padding after a complete group, and one with bits left over. -/
theorem header_read_alike_stray :
    Authorization.ofHeader? "Basic  \tQm9iOnB3=\x1c " = some ⟨"Bob", ⟨"pw"⟩⟩ ∧
      let s := blank .fast .counter []
      ReportsLogin "Bob" (s.act (.call (.login (.line "Basic Qm9iOnB=")))).result
        (serve s (loginWith "Basic Qm9iOnB=")).reply := by
  have padded : Credentials.parse "Basic  \tQm9iOnB3=\x1c " = .ok ⟨"Bob", ⟨"pw"⟩⟩ := by rfl
  have leftOver : Credentials.parse "Basic Qm9iOnB=" = .ok ⟨"Bob", ⟨"p"⟩⟩ := by rfl
  constructor
  · exact (header_read_alike (by decide) (by decide) (by decide) padded (by decide)
      (by decide)).2.1
  · have alike := (header_read_alike (by decide) (by decide) (by decide) leftOver (by decide)
      (by decide)).2.2 (blank .fast .counter []) _ (find_loginWith _) (header?_loginWith _)
    exact alike.1

end Http

end Gatekeeper
