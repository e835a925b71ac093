import HttpContract.Proofs.Transport.Network
import HttpContract.Run.Result

/-! The code that is recorded for a case whose request fails. The fault alone does not decide it:
the description that it is read from names the URL, and the words of the URL count as well. -/
namespace HttpContract
namespace Execution

section

variable [DomainNames]

/-- A case fails by a fault, which is told of a URL. -/
def FailsBy (network : Network) (base : Url) (test : TestCase) (fault : SendFault) (named : Url) :
    Prop :=
  ∃ request, Request.prepare base test = .ok (.ok request) ∧ network.Fails request fault named

def code? (execution : Execution) : Option FailureKind := execution.result.origin.transportError

variable {network network' : Network} {base base' : Url} {test test' : TestCase}
variable {fault : SendFault} {named named' : Url}

theorem FailsBy.exists_code? (h : FailsBy network base test fault named) (timing : Timing) :
    ∃ execution, ofCase network base timing test = .ok execution ∧
      execution.code? = some (fault.kind named.text) := by
  obtain ⟨request, prepared, failure⟩ := h
  have outcome := Network.outcome_eq_error_iff.2 ⟨fault, named, failure, rfl⟩
  refine ⟨ofRequest network timing test request, by rw [ofCase, prepared]; rfl, ?_⟩
  simp [ofRequest, outcome, code?, TestResult.ofFailure, TransportError.ofFault]

/-- Two cases that fail by one fault are recorded with one code exactly if the words of their URLs
stand for the same, timeouts apart. A refused or closed connection is recorded as one exactly if
the words of the URL stand for nothing. -/
theorem code?_eq_iff (failure : FailsBy network base test fault named)
    (failure' : FailsBy network' base' test' fault named') (timing timing' : Timing) :
    ∃ execution execution', ofCase network base timing test = .ok execution ∧
      ofCase network' base' timing' test' = .ok execution' ∧
      (execution.code? = execution'.code? ↔
        fault = .timedOut ∨ SendFault.misread? named.text = SendFault.misread? named'.text) ∧
      (fault = .connectionRefused →
        (execution.code? = some .connect ↔ SendFault.misread? named.text = none)) ∧
      (fault = .closedEarly →
        (execution.code? = some .read ↔ SendFault.misread? named.text = none)) := by
  obtain ⟨execution, executed, code⟩ := failure.exists_code? timing
  obtain ⟨execution', executed', code'⟩ := failure'.exists_code? timing'
  refine ⟨execution, execution', executed, executed', ?_, ?_, ?_⟩
  · rw [code, code', Option.some_inj, SendFault.kind_eq_kind_iff]
  · rintro rfl
    rw [code, Option.some_inj]
    exact SendFault.kind_eq_plainKind_iff (by decide)
  · rintro rfl
    rw [code, Option.some_inj]
    exact SendFault.kind_eq_plainKind_iff (by decide)

end

def address (scheme : Text) (host : Host) (segment : Text) : Url :=
  { scheme, authority := some { host }, path := .segments [segment] }

def getCase (target : Text) : TestCase := .new "case" .get target

def loopback : Text → Url := address "http" (.ipv4 2130706433)

def refusing : Network := { isUp := true, server := fun _ => .refuse }

theorem code?_eq_iff_refusing :
    let _ : DomainNames := .asciiOnly
    FailsBy refusing (loopback []) (getCase "/a") .connectionRefused
      (loopback "a").withoutReadableUserInfo ∧
    FailsBy refusing (loopback []) (getCase "/ssl") .connectionRefused
      (loopback "ssl").withoutReadableUserInfo ∧
    ∃ execution execution', ofCase refusing (loopback []) {} (getCase "/a") = .ok execution ∧
      ofCase refusing (loopback []) {} (getCase "/ssl") = .ok execution' ∧
      (execution.code? = execution'.code? ↔ SendFault.connectionRefused = .timedOut ∨
        SendFault.misread? (loopback "a").withoutReadableUserInfo.text =
          SendFault.misread? (loopback "ssl").withoutReadableUserInfo.text) ∧
      (SendFault.connectionRefused = .connectionRefused → (execution.code? = some .connect ↔
        SendFault.misread? (loopback "a").withoutReadableUserInfo.text = none)) ∧
      (SendFault.connectionRefused = .closedEarly → (execution.code? = some .read ↔
        SendFault.misread? (loopback "a").withoutReadableUserInfo.text = none)) := by
  intro names
  have plain : FailsBy refusing (loopback []) (getCase "/a") .connectionRefused
      (loopback "a").withoutReadableUserInfo :=
    ⟨Request.toUrl (getCase "/a") (loopback "a"), by decide +kernel,
      .followed (by decide +kernel) (by decide +kernel) (.refused rfl rfl)⟩
  have telling : FailsBy refusing (loopback []) (getCase "/ssl") .connectionRefused
      (loopback "ssl").withoutReadableUserInfo :=
    ⟨Request.toUrl (getCase "/ssl") (loopback "ssl"), by decide +kernel,
      .followed (by decide +kernel) (by decide +kernel) (.refused rfl rfl)⟩
  exact ⟨plain, telling, code?_eq_iff plain telling {} {}⟩

def fileServer : Text → Url := address "ftp" (.domain "h")

/-- Two requests are rejected for their scheme, and the path of one names a word. -/
theorem code?_rejected_dns :
    let _ : DomainNames := .asciiOnly
    ∃ base named named' execution execution', Request.baseUrl "ftp://h" = .ok base ∧
      FailsBy refusing base (getCase "/a") .schemeNotAllowed named ∧
      FailsBy refusing base (getCase "/dns") .schemeNotAllowed named' ∧
      ofCase refusing base {} (getCase "/a") = .ok execution ∧
      ofCase refusing base {} (getCase "/dns") = .ok execution' ∧
      execution.code? = some .invalidUrl ∧ execution'.code? = some .dns := by
  intro names
  have plain : FailsBy refusing (fileServer []) (getCase "/a") .schemeNotAllowed
      (fileServer "a").withoutReadableUserInfo :=
    ⟨Request.toUrl (getCase "/a") (fileServer "a"), by decide +kernel, .scheme (by decide +kernel)⟩
  have telling : FailsBy refusing (fileServer []) (getCase "/dns") .schemeNotAllowed
      (fileServer "dns").withoutReadableUserInfo :=
    ⟨Request.toUrl (getCase "/dns") (fileServer "dns"), by decide +kernel,
      .scheme (by decide +kernel)⟩
  obtain ⟨execution, executed, code⟩ := plain.exists_code? {}
  obtain ⟨execution', executed', code'⟩ := telling.exists_code? {}
  have kind : SendFault.schemeNotAllowed.kind (fileServer "a").withoutReadableUserInfo.text =
      .invalidUrl := by decide +kernel
  have kind' : SendFault.schemeNotAllowed.kind (fileServer "dns").withoutReadableUserInfo.text =
      .dns := by decide +kernel
  exact ⟨_, _, _, execution, execution', by decide +kernel, plain, telling, executed, executed',
    code.trans (congrArg some kind), code'.trans (congrArg some kind')⟩

end Execution
end HttpContract
