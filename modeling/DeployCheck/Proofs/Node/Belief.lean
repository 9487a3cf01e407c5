import DeployCheck.Proofs.Json.Printing
import DeployCheck.Proofs.Node.Response
import DeployCheck.Proofs.Text.Affixes
/-!
Which text a node is believed to have given as the code at an address: the one in its complete and
successful answer to the one call made, where this answer is a response that bears the text. In
every other case the failure names the address, and what is no address is never asked about.
-/
namespace DeployCheck.Node

open Text Json

variable {node : Node} {address text message : String} {host : Host} {answer : Answer} {code : Int}

def Wellformed (address : String) : Prop :=
  ∃ digits, address.toList = '0' :: 'x' :: digits ∧ digits.length = 40 ∧
    ∀ c ∈ digits, isHexDigit c = true

theorem isAddress_iff : isAddress address = true ↔ Wellformed address := by
  unfold isAddress Wellformed
  cases cut : dropFront? "0x".toList address.toList with
  | none =>
      simp only [Bool.false_eq_true, false_iff]
      rintro ⟨digits, split, -⟩
      have found : dropFront? "0x".toList address.toList = some digits :=
        dropFront?_eq_some.mpr split
      rw [cut] at found
      cases found
  | some digits =>
      have split := dropFront?_eq_some.mp cut
      simp only [Bool.and_eq_true, beq_iff_eq, List.all_eq_true]
      constructor
      · exact fun ⟨forty, all⟩ => ⟨digits, split, forty, all⟩
      · rintro ⟨others, same, forty, all⟩
        have equal : digits = others := by
          rw [split] at same
          exact (List.cons.inj (List.cons.inj same).2).2
        exact equal ▸ ⟨forty, all⟩

/-- One call was made, the question about the address. The reply that was due is an answer of a
status that means success, and it has a body of full length. -/
structure Answered (node : Node) (address : String) (host : Host) (answer : Answer) : Prop where
  asked : ∃ target, (node.code address host).2.network.seen =
    host.network.seen ++ [⟨.post, target, some (question address).compact⟩]
  next : host.network.posts.head? = some (.answer answer)
  success : 200 ≤ answer.status ∧ answer.status ≤ 299 ∧ answer.status ≠ 204
  complete : answer.missing = 0

theorem send_post_of_noted {network : Network} {url target : String} {body : Option String}
    (noted : (network.send .post url body).2.seen = network.seen ++ [⟨.post, target, body⟩])
    (next : network.posts.head? = some (.answer answer)) (final : 200 ≤ answer.status) :
    (network.send .post url body).1 = .ok answer := by
  have unnoted {request : Request} : network.seen ≠ network.seen ++ [request] := by simp
  unfold Network.send at noted ⊢
  split
  · rename_i fault bad
    simp only [bad] at noted
    exact absurd noted unnoted
  · rename_i parsed good
    simp only [good] at noted ⊢
    cases route : network.route with
    | refusing reason =>
        simp only [route] at noted
        split_ifs at noted <;> exact absurd noted unnoted
    | serving =>
        simp only [route, Network.note, Network.takeReply, next, Option.getD_some,
          if_neg (Nat.not_lt.mpr final)] at noted ⊢
        split_ifs at noted ⊢ with foreign unusable encrypted
        · exact absurd noted unnoted
        · exact absurd noted unnoted
        · -- A tunnel was asked for instead.
          simp at noted
        · rfl

theorem codeOfAnswer_eq (success : 200 ≤ answer.status ∧ answer.status ≤ 299 ∧ answer.status ≠ 204)
    (complete : answer.missing = 0) : node.codeOfAnswer answer = codeOfBody answer.body := by
  obtain ⟨low, high, filled⟩ := success
  have good : Status.isSuccess answer.status = true := by simp [Status.isSuccess, low, high]
  have bodied : Status.isBodiless answer.status = false := by
    simp only [Status.isBodiless, Bool.or_eq_false_iff, beq_eq_false_iff_ne]
    omega
  simp [codeOfAnswer, good, Answer.readBody, bodied, complete]

theorem Answered.code_eq (answered : Answered node address host answer)
    (proper : Wellformed address) :
    (node.code address host).1 = (codeOfBody answer.body).mapError (.chainFetch address) := by
  obtain ⟨target, asked⟩ := answered.asked
  have checked : checkAddress address = .ok () := if_pos (isAddress_iff.mpr proper)
  cases sent : host.send .post node.url (some (question address).compact) with
  | mk result after =>
      have noted : after.network.seen =
          host.network.seen ++ [⟨.post, target, some (question address).compact⟩] := by
        rw [← asked, code, checked]
        simp only [sent]
        cases result <;> rfl
      obtain ⟨taken, -⟩ := Host.send_eq sent
      have replied := send_post_of_noted (by rw [taken]; exact noted) answered.next
        answered.success.1
      rw [taken] at replied
      obtain rfl : result = .ok answer := replied
      rw [code, checked]
      simp only [sent, codeOfAnswer_eq answered.success answered.complete]

theorem codeOfBody_eq_ok_iff {body : Payload} :
    codeOfBody body = .ok text ↔ Padded (Bears text) (Utf8.symbols body.bytes) := by
  rw [codeOfBody_eq_ok, ← finish_readResponse_iff]
  constructor
  · rintro ⟨⟨_, _⟩, read, rfl, rfl⟩
    exact read
  · exact fun read => ⟨_, read, rfl, rfl⟩

theorem not_padded_nil : ¬ Padded (Bears text) [] := by
  rintro ⟨front, value, back, -, bears, -, empty⟩
  have shaped : Value value := exact_readResponse.value (bears_iff.mp bears)
  obtain ⟨c, more, rfl, -⟩ := shaped.start
  simp at empty

theorem Carries.bears (carries : Carries answer text) :
    (200 ≤ answer.status ∧ answer.status ≤ 299 ∧ answer.status ≠ 204) ∧ answer.missing = 0 ∧
      Padded (Bears text) (Utf8.symbols answer.body.bytes) := by
  obtain ⟨good, body, response, read, decoded⟩ := carries
  have document := codeOfBody_eq_ok_iff.mp (codeOfBody_eq_ok.mpr ⟨response, decoded⟩)
  have range : 200 ≤ answer.status ∧ answer.status ≤ 299 := by simpa [Status.isSuccess] using good
  unfold Answer.readBody at read
  split_ifs at read with bodiless complete
  · obtain rfl := Except.ok.inj read
    exact absurd document not_padded_nil
  · obtain rfl := Except.ok.inj read
    have filled : answer.status ≠ 204 := fun none => bodiless (by rw [none]; rfl)
    exact ⟨⟨range.1, range.2, filled⟩, complete, document⟩

/-- A node is believed exactly for a string that is the one result, beside no error, of its complete
and successful answer to the one question asked. Everything else is a failure about this address; an
error wins over a result, and what is no address is not asked about. -/
theorem code_believes (node : Node) (address : String) (host : Host) :
    (∀ text, (node.code address host).1 = .ok text ↔ Wellformed address ∧
      ∃ answer, Answered node address host answer ∧
        Padded (Bears text) (Utf8.symbols answer.body.bytes)) ∧
    ((∃ text, (node.code address host).1 = .ok text) ∨
      ∃ reason, (node.code address host).1 = .error (.chainFetch address reason)) ∧
    (∀ answer code message, Wellformed address → Answered node address host answer →
      -2 ^ 63 ≤ code → code < 2 ^ 63 →
      Padded (Faults code message) (Utf8.symbols answer.body.bytes) →
      (node.code address host).1 =
        .error (.chainFetch address ("RPC error " ++ signedText code ++ ": " ++ message))) ∧
    (¬ Wellformed address →
      node.code address host = (.error (.chainFetch address "malformed address"), host)) := by
  refine ⟨fun text => ⟨fun believed => ?_, ?_⟩, ?_, ?_, fun malformed => ?_⟩
  · obtain ⟨proper, -, ⟨answer, next, carries⟩, url, -, asked⟩ :=
      code_eq_ok (Prod.ext believed rfl : node.code address host = (.ok text, _))
    obtain ⟨success, complete, document⟩ := carries.bears
    exact ⟨isAddress_iff.mp proper, answer, ⟨⟨_, asked⟩, next, success, complete⟩, document⟩
  · rintro ⟨proper, answer, answered, document⟩
    rw [answered.code_eq proper, codeOfBody_eq_ok_iff.mpr document]
    rfl
  · cases outcome : (node.code address host).1 with
    | ok text => exact .inl ⟨text, rfl⟩
    | error fault =>
        obtain ⟨reason, rfl⟩ := code_eq_error outcome
        exact .inr ⟨reason, rfl⟩
  · intro answer code message proper answered low high document
    rw [answered.code_eq proper, codeOfBody_of_faults low high document]
    rfl
  · have refused : isAddress address ≠ true := fun proper => malformed (isAddress_iff.mp proper)
    have checked : checkAddress address = .error (.chainFetch address "malformed address") :=
      if_neg refused
    rw [Node.code, checked]

def loopNode : Node :=
  ⟨"http://[::1]"⟩

def loopAddress : String :=
  "0x00000000000000000000000000000000000000aA"

def wideAddress : String :=
  "0xéééééééééééééééééééé"

def loopAnswer (body : Json) : Answer :=
  ⟨200, .ofText (compact body), none, 0⟩

def loopHost (body : Json) : Host where
  disk := ⟨[]⟩
  network := .serving [] [.answer (loopAnswer body)]
  workingDirectory := []
  scratch := []
  mishaps := []
  runs := []

def bearingBody : Json :=
  .object [("id", .nat 1), ("error", .null), ("result", .string "0x60")]

def faultingBody : Json :=
  .object
    [("result", .string "0x60"),
      ("error", .object [("message", .string "busy"), ("code", .number (.negative 32000))])]

theorem answered_loop (body : Json) :
    Answered loopNode loopAddress (loopHost body) (loopAnswer body) :=
  ⟨⟨_, rfl⟩, rfl, by simp [loopAnswer], rfl⟩

theorem printed_loop (body : Json) :
    Printed body (Utf8.symbols (loopAnswer body).body.bytes) := by
  have printed : Utf8.symbols (loopAnswer body).body.bytes = Utf8.ofText (compactText body) := by
    rw [loopAnswer, Payload.ofText, Utf8.encode, Utf8.symbols, Utf8.symbols_encode, compact,
      String.toList_ofList, Utf8.ofText]
  rw [printed]
  exact .compact

theorem bears_bearingBody {source : Source} (printed : Printed bearingBody source) :
    Bears "0x60" source := by
  obtain ⟨write, writes, object⟩ := printed.isObject
  have null := (writes .null).eq_null
  refine .object object (named_map _ _ write) (writes (.string "0x60")).literal ?_
  simp [named, null, nullText]

theorem faults_faultingBody {source : Source} (printed : Printed faultingBody source) :
    Faults (-32000) "busy" source := by
  obtain ⟨write, writes, object⟩ := printed.isObject
  obtain ⟨write', writes', fields⟩ := (writes (.object
    [("message", .string "busy"), ("code", .number (.negative 32000))])).isObject
  have number := (writes' (.number (.negative 32000))).eq_render
  refine ⟨_, _, _, _, object, named_map _ _ write, fields, ?_, named_map _ _ write',
    (writes' (.string "busy")).literal,
    .inr ⟨_, .string "0x60", named_map _ _ write, kept_string_iff.mpr (writes _).literal⟩⟩
  simp only [named_map]
  exact congrArg (fun value => [value]) number

theorem code_believes_loop :
    (Wellformed loopAddress ∧
      Answered loopNode loopAddress (loopHost bearingBody) (loopAnswer bearingBody) ∧
      Padded (Bears "0x60") (Utf8.symbols (loopAnswer bearingBody).body.bytes) ∧
      (loopNode.code loopAddress (loopHost bearingBody)).1 = .ok "0x60") ∧
    (Answered loopNode loopAddress (loopHost faultingBody) (loopAnswer faultingBody) ∧
      Padded (Faults (-32000) "busy") (Utf8.symbols (loopAnswer faultingBody).body.bytes) ∧
      (loopNode.code loopAddress (loopHost faultingBody)).1 =
        .error (.chainFetch loopAddress "RPC error -32000: busy")) ∧
    utf8Length (wideAddress.toList.drop 2) = 40 ∧ ¬ Wellformed wideAddress ∧
      loopNode.code wideAddress (loopHost bearingBody) =
        (.error (.chainFetch wideAddress "malformed address"), loopHost bearingBody) := by
  -- A result among other members, an error beside a result, and an address of forty bytes that
  -- are no digits.
  have proper : Wellformed loopAddress := isAddress_iff.mp rfl
  have bears : Padded (Bears "0x60") (Utf8.symbols (loopAnswer bearingBody).body.bytes) :=
    .bare (bears_bearingBody (printed_loop bearingBody))
  have faults : Padded (Faults (-32000) "busy")
      (Utf8.symbols (loopAnswer faultingBody).body.bytes) :=
    .bare (faults_faultingBody (printed_loop faultingBody))
  have malformed : ¬ Wellformed wideAddress := fun proper =>
    absurd (isAddress_iff.mpr proper) (by decide)
  refine ⟨⟨proper, answered_loop _, bears, ?_⟩, ⟨answered_loop _, faults, ?_⟩, by decide, malformed,
    (code_believes loopNode wideAddress _).2.2.2 malformed⟩
  · exact ((code_believes loopNode loopAddress _).1 "0x60").mpr
      ⟨proper, _, answered_loop bearingBody, bears⟩
  · exact (code_believes loopNode loopAddress _).2.2.1 _ _ _ proper (answered_loop faultingBody)
      (by decide) (by decide) faults

end DeployCheck.Node
