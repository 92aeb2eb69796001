import TenantLink.Proofs.Client.Disclosure
import TenantLink.Proofs.Json.Printing
import TenantLink.Proofs.Text.Blank

/-!
# The envelope of a server error

Of all that a failed backend sends, one sentence at most is shown: `Shows` says which, and
`Response.sanitize_envelops` that the envelope holds that sentence, can be read, and depends on
nothing else in the body. What has been sanitized is not changed by sanitizing it again:
`Response.sanitize_settles`.
-/

namespace TenantLink

namespace Disclosure

/-- What a body says about the failure: its message or, where that is no text, its detail. -/
inductive Says (body : Bytes) : String → Prop
  | message {members : List (String × Json)} {text : String} :
    Json.read? body = some (.object members) → ("message", .string text) ∈ members →
    Says body text
  | detail {members : List (String × Json)} {text : String} :
    Json.read? body = some (.object members) → (∀ other, ("message", .string other) ∉ members) →
    ("detail", .string text) ∈ members → Says body text

/-- Whether a sentence may be shown to the user. -/
structure IsShowable (sentence : String) : Prop where
  some : sentence ≠ ""
  short : sentence.utf8ByteSize ≤ 300
  clean : isInternal sentence = false

/-- What is shown for a body: what it says, trimmed, if that is showable, and the generic message
otherwise. -/
inductive Shows (body : Bytes) : String → Prop
  | said {text sentence : String} : Says body text →
    Text.IsTrimmed text.toList sentence.toList → IsShowable sentence → Shows body sentence
  | generic : (∀ text sentence, Says body text → Text.IsTrimmed text.toList sentence.toList →
      ¬ IsShowable sentence) →
    Shows body genericMessage

variable {body : Bytes} {text sentence : String}

theorem textMember_eq_some {members : List (String × Json)} {field : String}
    (ordered : Json.InOrder members) :
    ((Json.object members).member? field).bind Json.asString? = some text ↔
      (field, .string text) ∈ members := by
  rw [← Json.lookup_eq_some ordered, Json.member?]
  cases members.lookup field with
  | none => simp
  | some v => cases v <;> simp [Json.asString?]

/-- Where the message is no text, the detail is looked at. -/
theorem statement?_object {members : List (String × Json)} (ordered : Json.InOrder members) :
    statement? (.object members) = some text ↔
      ("message", .string text) ∈ members ∨
        (∀ other, ("message", .string other) ∉ members) ∧ ("detail", .string text) ∈ members := by
  have found (field : String) (text : String) :
      ((Json.object members).member? field).bind Json.asString? = some text ↔ _ :=
    textMember_eq_some ordered
  unfold statement? messageFields
  rw [List.findSome?_cons]
  split
  next other message =>
    have there := (found _ _).mp message
    rw [← found "message" text, message]
    refine ⟨.inl, fun h => h.elim id fun none => (none.1 other there).elim⟩
  next silent =>
    have none : ∀ other, ("message", Json.string other) ∉ members := by
      intro other there
      rw [(found _ _).mpr there] at silent
      cases silent
    rw [List.findSome?_singleton, found]
    exact ⟨fun detail => .inr ⟨none, detail⟩,
      fun h => h.elim (fun there => (none text there).elim) And.right⟩

theorem says_iff : Says body text ↔ (Json.read? body).bind statement? = some text := by
  constructor
  · rintro (⟨read, message⟩ | ⟨read, none, detail⟩)
    · rw [read]
      exact (statement?_object (Json.inOrder_of_read? read)).mpr (.inl message)
    · rw [read]
      exact (statement?_object (Json.inOrder_of_read? read)).mpr (.inr ⟨none, detail⟩)
  · intro h
    obtain ⟨v, read, stated⟩ := Option.bind_eq_some_iff.mp h
    cases v with
    | object members =>
      have inOrder := Json.inOrder_of_read? read
      rcases (statement?_object inOrder).mp stated with message | ⟨none, detail⟩
      · exact .message read message
      · exact .detail read none detail
    | _ => cases stated

theorem isPresentable_iff : isPresentable sentence = true ↔ IsShowable sentence := by
  simp only [isPresentable, Bool.and_eq_true, decide_eq_true_eq, Bool.not_eq_true']
  exact ⟨fun h => ⟨h.1.1, h.1.2, h.2⟩, fun h => ⟨⟨h.some, h.short⟩, h.clean⟩⟩

theorem isTrimmed_trimmed :
    Text.IsTrimmed text.toList sentence.toList ↔ sentence = Text.trimmed text := by
  rw [Text.isTrimmed_iff, Text.trimmed, ← String.toList_inj, String.toList_ofList]

theorem shows_safeMessage (body : Bytes) : Shows body (safeMessage body) := by
  unfold safeMessage
  split
  next sentence stated =>
    obtain ⟨text, said, rfl⟩ := Option.map_eq_some_iff.mp stated
    split
    next presentable =>
      exact .said (says_iff.mpr said) (isTrimmed_trimmed.mpr rfl) (isPresentable_iff.mp presentable)
    next hidden =>
      refine .generic fun text' sentence said' trimmed showable => hidden ?_
      obtain rfl := Option.some.inj (said.symm.trans (says_iff.mp said'))
      obtain rfl := isTrimmed_trimmed.mp trimmed
      exact isPresentable_iff.mpr showable
  next silent =>
    refine .generic fun text sentence said => ?_
    rw [says_iff.mp said] at silent
    cases silent

theorem Shows.unique {other : String} (h : Shows body sentence) (h' : Shows body other) :
    sentence = other := by
  cases h with
  | @said text _ said trimmed showable =>
    cases h' with
    | @said text' _ said' trimmed' =>
      obtain rfl := Option.some.inj ((says_iff.mp said).symm.trans (says_iff.mp said'))
      exact (isTrimmed_trimmed.mp trimmed).trans (isTrimmed_trimmed.mp trimmed').symm
    | generic none => exact (none text sentence said trimmed showable).elim
  | generic none =>
    cases h' with
    | said said' trimmed' showable' => exact (none _ _ said' trimmed' showable').elim
    | generic => rfl

theorem shows_iff : Shows body sentence ↔ sentence = safeMessage body :=
  ⟨fun h => h.unique (shows_safeMessage body), fun same => same ▸ shows_safeMessage body⟩

/-- The envelope of any message is read as three members. -/
theorem read?_errorBody (message : String) :
    Json.read? (errorBody message) =
      some (.object [("code", .string "SERVER_ERROR"), ("error", .string "Internal Server Error"),
        ("message", .string message)]) := by
  have names : ["code", "error", "message"].Pairwise (· < ·) := by decide
  have ordered : [("code", errorCode), ("error", errorTitle), ("message", message)].Pairwise
      (·.1 < ·.1) :=
    List.pairwise_map.mp names
  have same : envelope message =
      Json.texts [("code", errorCode), ("error", errorTitle), ("message", message)] := rfl
  rw [errorBody, same, Json.read?_texts ordered]
  rfl

end Disclosure

namespace Response

/-- What is shown in place of a server error: its status, and one sentence. -/
structure Envelops (shown failed : Response) (sentence : String) : Prop where
  status : shown.status = failed.status
  sanitized : shown.sanitized = true
  kept : ∀ name, name ≠ .contentLength → name ≠ .contentEncoding → name ≠ .contentType →
    shown.headers.getAll name = failed.headers.getAll name
  measured : shown.headers.getAll .contentLength = []
  encoded : shown.headers.getAll .contentEncoding = []
  typed : shown.headers.getAll .contentType = [.json]
  read : Json.read? shown.body =
    some (.object [("code", .string "SERVER_ERROR"), ("error", .string "Internal Server Error"),
      ("message", .string sentence)])

theorem getAll_envelopeHeaders_of_ne {name : HeaderName} (headers : Headers)
    (length : name ≠ .contentLength) (encoding : name ≠ .contentEncoding)
    (type : name ≠ .contentType) :
    (envelopeHeaders headers).getAll name = headers.getAll name := by
  rw [envelopeHeaders, Headers.getAll_insert_of_ne type.symm,
    Headers.getAll_remove_of_ne encoding.symm, Headers.getAll_remove_of_ne length.symm]

theorem sanitize_of_error {failed : Response}
    (error : 500 ≤ failed.status.code ∧ failed.status.code ≤ 599) :
    failed.sanitize =
      { failed with
        headers := envelopeHeaders failed.headers
        body := Disclosure.errorBody (Disclosure.safeMessage failed.body)
        sanitized := true } := by
  refine if_pos ?_
  simpa [Status.isServerError, Nat.lt_succ_iff] using error

/-- A server error is shown as an envelope, which is the same for all bodies that show one
sentence. -/
theorem sanitize_envelops (failed : Response)
    (error : 500 ≤ failed.status.code ∧ failed.status.code ≤ 599) :
    ∃ sentence, (∀ s, Disclosure.Shows failed.body s ↔ s = sentence) ∧
      failed.sanitize.Envelops failed sentence ∧
      ∀ other : Response, other.status = failed.status → other.headers = failed.headers →
        Disclosure.Shows other.body sentence → other.sanitize = failed.sanitize := by
  refine ⟨Disclosure.safeMessage failed.body, fun s => Disclosure.shows_iff, ?_, ?_⟩
  · obtain ⟨typed, measured, encoded⟩ := getAll_envelopeHeaders failed.headers
    rw [sanitize_of_error error]
    exact {
      status := rfl
      sanitized := rfl
      kept := fun name => getAll_envelopeHeaders_of_ne failed.headers
      measured
      encoded
      typed
      read := Disclosure.read?_errorBody _ }
  · intro other status headers shown
    have error' : 500 ≤ other.status.code ∧ other.status.code ≤ 599 := status ▸ error
    have said := Disclosure.shows_iff.mp shown
    rw [sanitize_of_error error, sanitize_of_error error', status, headers, said]

/-- A failure that is explained in the second of the two members, between white space. -/
def overloaded : Response where
  status := ⟨503, by decide⟩
  headers := [(.contentLength, ⟨[0x33, 0x31], by decide⟩)]
  body := (Json.texts [("detail", " Export is down\n")]).bytes

theorem overloaded_shows : Disclosure.Shows overloaded.body "Export is down" := by
  have read := Json.read?_texts (List.pairwise_singleton _ ("detail", " Export is down\n"))
  have trimmed : Text.IsTrimmed " Export is down\n".toList "Export is down".toList :=
    Text.isTrimmed_iff.mpr (by decide)
  have clean : Disclosure.isInternal "Export is down" = false := by decide +kernel
  exact .said (.detail read (by simp) List.mem_cons_self) trimmed ⟨by decide, by decide, clean⟩

theorem overloaded_sanitized :
    (500 ≤ overloaded.status.code ∧ overloaded.status.code ≤ 599) ∧
      (∀ s, Disclosure.Shows overloaded.body s ↔ s = "Export is down") ∧
      overloaded.sanitize.Envelops overloaded "Export is down" ∧
      ∀ other : Response, other.status = overloaded.status → other.headers = overloaded.headers →
        Disclosure.Shows other.body "Export is down" → other.sanitize = overloaded.sanitize := by
  have error : 500 ≤ overloaded.status.code ∧ overloaded.status.code ≤ 599 := by decide
  obtain ⟨sentence, shown, envelops, same⟩ := sanitize_envelops overloaded error
  obtain rfl := (shown _).mp overloaded_shows
  exact ⟨error, shown, envelops, same⟩

end Response

/-! ### Sanitizing again -/

namespace Disclosure

variable {body : Bytes} {sentence : String}

theorem isShowable_genericMessage : IsShowable genericMessage where
  some := by decide
  short := by decide
  clean := by decide +kernel

/-- What is shown is showable, and there is nothing left to trim. -/
theorem Shows.isShowable (h : Shows body sentence) :
    IsShowable sentence ∧ Text.IsTrimmed sentence.toList sentence.toList := by
  cases h with
  | said _ trimmed showable =>
    refine ⟨showable, Text.isTrimmed_iff.mpr ?_⟩
    rw [Text.isTrimmed_iff.mp trimmed, Text.trim_trim]
  | generic => exact ⟨isShowable_genericMessage, Text.isTrimmed_iff.mpr (by decide)⟩

/-- An envelope shows the sentence that it holds, if that can be shown. -/
theorem shows_errorBody (showable : IsShowable sentence)
    (trimmed : Text.IsTrimmed sentence.toList sentence.toList) :
    Shows (errorBody sentence) sentence := by
  have said : Says (errorBody sentence) sentence :=
    .message (read?_errorBody sentence) (List.mem_of_getLast? rfl)
  exact .said said trimmed showable

theorem safeMessage_errorBody (body : Bytes) :
    safeMessage (errorBody (safeMessage body)) = safeMessage body := by
  obtain ⟨showable, trimmed⟩ := (shows_safeMessage body).isShowable
  exact (shows_iff.mp (shows_errorBody showable trimmed)).symm

end Disclosure

namespace Response

theorem envelopeHeaders_envelopeHeaders (headers : Headers) :
    envelopeHeaders (envelopeHeaders headers) = envelopeHeaders headers := by
  have length : (envelopeHeaders headers).remove .contentLength = envelopeHeaders headers := by
    rw [envelopeHeaders, Headers.remove_insert_of_ne (by decide),
      Headers.remove_comm _ .contentEncoding, Headers.remove_remove_self]
  have encoding : (envelopeHeaders headers).remove .contentEncoding = envelopeHeaders headers := by
    rw [envelopeHeaders, Headers.remove_insert_of_ne (by decide), Headers.remove_remove_self]
  calc envelopeHeaders (envelopeHeaders headers)
    _ = (envelopeHeaders headers).insert .contentType .json := by
      rw [envelopeHeaders, length, encoding]
    _ = envelopeHeaders headers := Headers.insert_insert_self .json

/-- The sentence that an envelope shows is the one it was made for, and a sanitized response stays
as it is. -/
theorem sanitize_settles :
    (∀ body, Disclosure.safeMessage (Disclosure.errorBody (Disclosure.safeMessage body)) =
        Disclosure.safeMessage body) ∧
      ∀ response : Response, response.sanitize.sanitize = response.sanitize := by
  refine ⟨Disclosure.safeMessage_errorBody, fun response => ?_⟩
  by_cases error : 500 ≤ response.status.code ∧ response.status.code ≤ 599
  · have once := sanitize_of_error error
    have error' : 500 ≤ response.sanitize.status.code ∧ response.sanitize.status.code ≤ 599 := by
      rw [once]
      exact error
    rw [sanitize_of_error error', once]
    dsimp only
    rw [envelopeHeaders_envelopeHeaders, Disclosure.safeMessage_errorBody]
  · have same : response.sanitize = response := by
      refine if_neg ?_
      simpa [Status.isServerError, Nat.lt_succ_iff] using error
    rw [same, same]

end Response

end TenantLink
