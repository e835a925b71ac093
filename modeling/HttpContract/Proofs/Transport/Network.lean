import HttpContract.Proofs.Transport.Failure
import HttpContract.Transport.Network

/-! How a request fails: by one fault, which befalls it or a request that it was redirected to, and
which is told of one URL. Redirects carry no credentials to another server. -/
namespace HttpContract
namespace Network

variable [DomainNames]

/-- A request that is followed meets a fault, which is told of a URL. `first` is the URL that the
following started from. -/
inductive Meets (network : Network) (first : Url) : Nat → Request → SendFault → Url → Prop
  | unreachable {redirects : Nat} {request : Request} (down : network.isUp = false) :
      Meets network first redirects request .networkUnreachable first
  | refused {redirects : Nat} {request : Request} (up : network.isUp = true)
      (action : network.server request = .refuse) :
      Meets network first redirects request .connectionRefused first
  | closed {redirects : Nat} {request : Request} (up : network.isUp = true)
      (action : network.server request = .close) :
      Meets network first redirects request .closedEarly first
  | hung {redirects : Nat} {request : Request} (up : network.isUp = true)
      (action : network.server request = .hang) :
      Meets network first redirects request .timedOut first
  | exhausted {request next : Request} {reply : Reply} (up : network.isUp = true)
      (action : network.server request = .reply reply)
      (place : reply.redirect? request = some next) :
      Meets network first 0 request .tooManyRedirects request.url.withoutFragment
  | misled {redirects : Nat} {request next : Request} {reply : Reply} (up : network.isUp = true)
      (action : network.server request = .reply reply)
      (place : reply.redirect? request = some next) (scheme : isAllowed next.url = false) :
      Meets network first (redirects + 1) request .schemeNotAllowed next.url
  | redirected {redirects : Nat} {request next : Request} {reply : Reply} {fault : SendFault}
      {named : Url} (up : network.isUp = true) (action : network.server request = .reply reply)
      (place : reply.redirect? request = some next) (scheme : isAllowed next.url = true)
      (later : Meets network first redirects next fault named) :
      Meets network first (redirects + 1) request fault named

inductive Fails (network : Network) (request : Request) : SendFault → Url → Prop
  | scheme (wrong : isAllowed request.url.withoutReadableUserInfo = false) :
      Fails network request .schemeNotAllowed request.url.withoutReadableUserInfo
  | noUri (right : isAllowed request.url.withoutReadableUserInfo = true)
      (wrong : request.url.withoutReadableUserInfo.isUri = false) :
      Fails network request .notUri request.url.withoutReadableUserInfo
  | followed {fault : SendFault} {named : Url}
      (right : isAllowed request.url.withoutReadableUserInfo = true)
      (uri : request.url.withoutReadableUserInfo.isUri = true)
      (met : Meets network request.url.withoutReadableUserInfo maxRedirects
        { request with url := request.url.withoutReadableUserInfo } fault named) :
      Fails network request fault named

variable {network : Network} {fault : SendFault} {named : Url}

theorem Meets.outcome {first : Url} {redirects : Nat} {request : Request}
    (h : Meets network first redirects request fault named) :
    (network.follow first redirects request).outcome = .error (.ofFault fault named) := by
  induction h <;> rw [follow] <;> simp [*]

theorem Meets.of_outcome {first : Url} {redirects : Nat} {request : Request}
    {error : TransportError} (h : (network.follow first redirects request).outcome = .error error) :
    ∃ fault named, Meets network first redirects request fault named ∧
      error = .ofFault fault named := by
  fun_induction follow network first redirects request with
  | case1 redirects request fail down =>
    exact ⟨_, _, .unreachable (by simpa using down), (Except.error.inj h).symm⟩
  | case2 redirects request fail up action =>
    exact ⟨_, _, .refused (by simpa using up) action, (Except.error.inj h).symm⟩
  | case3 redirects request fail up action =>
    exact ⟨_, _, .closed (by simpa using up) action, (Except.error.inj h).symm⟩
  | case4 redirects request fail up action =>
    exact ⟨_, _, .hung (by simpa using up) action, (Except.error.inj h).symm⟩
  | case5 => cases h
  | case6 request fail up reply action next place =>
    exact ⟨_, _, .exhausted (by simpa using up) action place, (Except.error.inj h).symm⟩
  | case7 request fail up reply action next redirects place scheme =>
    exact ⟨_, _, .misled (by simpa using up) action place (by simpa using scheme),
      (Except.error.inj h).symm⟩
  | case8 request up reply action next redirects place scheme rest ih =>
    obtain ⟨fault, named, later, same⟩ := ih h
    exact ⟨fault, named, .redirected (by simpa using up) action place (by simpa using scheme) later,
      same⟩

theorem outcome_eq_error_iff {request : Request} {error : TransportError} :
    (network.send request).outcome = .error error ↔
      ∃ fault named, Fails network request fault named ∧ error = .ofFault fault named := by
  constructor
  · intro h
    simp only [send] at h
    split at h
    next wrong => exact ⟨_, _, .scheme (by simpa using wrong), (Except.error.inj h).symm⟩
    next right =>
      split at h
      next wrong =>
        exact ⟨_, _, .noUri (by simpa using right) (by simpa using wrong),
          (Except.error.inj h).symm⟩
      next uri =>
        obtain ⟨fault, named, met, same⟩ := Meets.of_outcome h
        exact ⟨fault, named, .followed (by simpa using right) (by simpa using uri) met, same⟩
  · rintro ⟨fault, named, failure, rfl⟩
    cases failure with
    | scheme wrong => simp [send, wrong]
    | noUri right wrong => simp [send, right, wrong]
    | followed right uri met => simp [send, right, uri, met.outcome]

end Network

/-! Credentials stay with the server that they are meant for. -/

/-- No field is meant for one server alone. -/
def Request.IsPublic (request : Request) : Prop :=
  ∀ field ∈ request.headers.fields, field.1 ∉ Reply.credentialFields

namespace Reply

@[simp] theorem asksSame_refl (url : Url) : asksSame url url = true := by simp [asksSame]

theorem asksSame_trans {url next last : Url} (h : asksSame url next = true)
    (h' : asksSame next last = true) : asksSame url last = true := by
  simp only [asksSame, Bool.and_eq_true, beq_iff_eq] at *
  exact ⟨h.1.trans h'.1, h.2.trans h'.2⟩

theorem mem_redirectedHeaders {headers : HeaderMap} {hasBody : Bool} {url next : Url}
    {field : Text × Text} (h : field ∈ (redirectedHeaders headers hasBody url next).fields) :
    field.1 = "referer" ∨
      field ∈ headers.fields ∧ (field.1 ∈ credentialFields → asksSame url next = true) := by
  have kept {names : List Text} (there : field ∈ (headers.without (names ++
      if asksSame url next then [] else credentialFields)).fields) :
      field ∈ headers.fields ∧ (field.1 ∈ credentialFields → asksSame url next = true) := by
    obtain ⟨listed, apart⟩ := List.mem_filter.1 there
    refine ⟨listed, fun secret => ?_⟩
    by_contra other
    rw [if_neg other] at apart
    simp [secret] at apart
  unfold redirectedHeaders at h
  dsimp only at h
  cases told : referer? url next with
  | none =>
    rw [told] at h
    exact .inr (kept h)
  | some referer =>
    rw [told] at h
    obtain there | added := List.mem_append.1 h
    · exact .inr (kept (List.mem_filter.1 there).1)
    · exact .inl (List.mem_singleton.1 added ▸ rfl)

variable [DomainNames] {reply : Reply} {request next : Request}

theorem isPublic_redirect? (place : reply.redirect? request = some next)
    (h : asksSame request.url next.url = true → request.IsPublic) : next.IsPublic := by
  obtain ⟨url, -, made⟩ := Option.map_eq_some_iff.1 place
  have headers : ∃ hasBody, next.url = url ∧
      next.headers = redirectedHeaders request.headers hasBody request.url url := by
    split at made <;> exact made ▸ ⟨_, rfl, rfl⟩
  obtain ⟨hasBody, rfl, same⟩ := headers
  intro field there secret
  rw [same] at there
  obtain referer | ⟨listed, kept⟩ := mem_redirectedHeaders there
  · rw [referer] at secret
    exact absurd secret (by decide)
  · exact h (kept secret) field listed secret

end Reply

namespace Network

variable [DomainNames] {network : Network} {first : Url} {redirects : Nat} {request : Request}

theorem isPublic_of_mem_sent (h : request.IsPublic) :
    ∀ later ∈ (network.follow first redirects request).sent, later.IsPublic := by
  fun_induction follow network first redirects request with
  | case8 request up reply action next redirects place scheme rest ih =>
    exact List.forall_mem_cons.2 ⟨h, ih (Reply.isPublic_redirect? place fun _ => h)⟩
  | _ => exact List.forall_mem_singleton.2 h

/-- Behind a redirect to another server there are no credentials, also if a later redirect leads
back. -/
theorem asksSame_or_isPublic : ∀ later ∈ (network.follow first redirects request).sent,
    Reply.asksSame request.url later.url = true ∨ later.IsPublic := by
  fun_induction follow network first redirects request with
  | case8 request up reply action next redirects place scheme rest ih =>
    refine List.forall_mem_cons.2 ⟨.inl (Reply.asksSame_refl _), fun later sent => ?_⟩
    by_cases same : Reply.asksSame request.url next.url = true
    · exact (ih later sent).imp_left (Reply.asksSame_trans same)
    · exact .inr (isPublic_of_mem_sent (Reply.isPublic_redirect? place (absurd · same)) later sent)
  | _ => exact List.forall_mem_singleton.2 (.inl (Reply.asksSame_refl _))

end Network
end HttpContract
