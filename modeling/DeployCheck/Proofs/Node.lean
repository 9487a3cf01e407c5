import DeployCheck.Node
import DeployCheck.Proofs.Host
namespace DeployCheck.Node

open Text

variable {node : Node} {address text : String} {host after : Host} {answer : Answer}

/-- An answer that carries a text as its result. -/
def Carries (answer : Answer) (text : String) : Prop :=
  Status.isSuccess answer.status = true ∧ ∃ body response,
    answer.readBody = .ok body ∧
    Json.finish (readResponse (Utf8.symbols body.bytes)) = .ok response ∧
    response.complaint = none ∧ response.result = some (.string text)

theorem Response.code_eq_ok {response : Response} : response.code = .ok text ↔
    response.complaint = none ∧ response.result = some (.string text) := by
  rw [Response.code]
  split <;> simp_all

theorem codeOfBody_eq_ok {body : Payload} : codeOfBody body = .ok text ↔
    ∃ response, Json.finish (readResponse (Utf8.symbols body.bytes)) = .ok response ∧
      response.complaint = none ∧ response.result = some (.string text) := by
  rw [codeOfBody]
  cases Json.finish (readResponse (Utf8.symbols body.bytes)) with
  | error fault => simp
  | ok response => simp [Response.code_eq_ok]

theorem codeOfAnswer_eq_ok : node.codeOfAnswer answer = .ok text ↔ Carries answer text := by
  rw [codeOfAnswer, Carries]
  cases success : Status.isSuccess answer.status with
  | false => simp
  | true =>
      cases read : answer.readBody with
      | error fault => simp
      | ok body => simp [codeOfBody_eq_ok]

theorem send_post_eq_ok {network later : Network} {url : String} {body : Option String}
    (sent : network.send .post url body = (.ok answer, later)) :
    ∃ parsed, Url.ofText url = .ok parsed ∧
      later.seen = network.seen ++ [⟨.post, parsed.withoutUser.text, body⟩] ∧
      network.posts.head?.getD .exhausted = .answer answer := by
  unfold Network.send at sent
  cases read : Url.ofText url with
  | error fault => simp [read] at sent
  | ok parsed =>
      refine ⟨parsed, rfl, ?_⟩
      simp only [read] at sent
      split at sent
      · simp at sent
      · split at sent
        · simp at sent
        · split at sent
          · simp at sent
          · split at sent
            · simp at sent
            · simp only [Network.note, Network.takeReply] at sent
              cases taken : network.posts.head?.getD .exhausted with
              | drop => simp [taken] at sent
              | answer given =>
                  simp only [taken] at sent
                  split at sent
                  · simp at sent
                  · obtain ⟨same, rfl⟩ := Prod.mk.inj sent
                    obtain rfl := Except.ok.inj same
                    exact ⟨rfl, rfl⟩

theorem code_eq_ok (asked : node.code address host = (.ok text, after)) :
    isAddress address = true ∧ after = { host with network := after.network } ∧
      (∃ answer, host.network.posts.head? = some (.answer answer) ∧ Carries answer text) ∧
      ∃ url, Url.ofText node.url = .ok url ∧ after.network.seen = host.network.seen ++
        [⟨.post, url.withoutUser.text, some (question address).compact⟩] := by
  unfold code checkAddress at asked
  cases proper : isAddress address with
  | false => simp [proper] at asked
  | true =>
      simp only [proper, if_true] at asked
      split at asked
      · cases asked
      · rename_i answer answered sent
        obtain ⟨outcome, rfl⟩ := Prod.mk.inj asked
        obtain ⟨taken, only⟩ := Host.send_eq sent
        obtain ⟨url, read, seen, next⟩ := send_post_eq_ok taken
        have carries : Carries answer text := by
          refine codeOfAnswer_eq_ok.mp (?_ : node.codeOfAnswer answer = .ok text)
          cases given : node.codeOfAnswer answer with
          | error reason => simp [given, Except.mapError] at outcome
          | ok code => simpa [given, Except.mapError] using outcome
        refine ⟨rfl, only, ⟨answer, ?_, carries⟩, url, read, seen⟩
        cases queue : host.network.posts.head? with
        | none =>
            -- An empty queue answers with a status that is no success.
            rw [queue, Option.getD_none, Reply.exhausted, Reply.answer.injEq] at next
            rw [← next] at carries
            exact absurd carries.1 (by decide)
        | some reply =>
            rw [queue, Option.getD_some] at next
            rw [next]

theorem code_eq_error {fault : VerificationError}
    (failed : (node.code address host).1 = .error fault) :
    ∃ reason, fault = .chainFetch address reason := by
  unfold code checkAddress at failed
  split at failed
  · rename_i refused
    split at refused
    · cases refused
    · obtain rfl := Except.error.inj failed
      exact ⟨_, (Except.error.inj refused).symm⟩
  · split at failed
    · exact ⟨_, (Except.error.inj failed).symm⟩
    · rename_i answer _ _
      cases given : node.codeOfAnswer answer with
      | ok text => simp [given, Except.mapError] at failed
      | error reason =>
          rw [given] at failed
          exact ⟨reason, (Except.error.inj failed).symm⟩

end DeployCheck.Node
