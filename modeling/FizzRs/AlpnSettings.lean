import FizzRs.ClientHandshake
import FizzRs.ServerContext

namespace FizzRs

/-!
# ALPN settings

A context keeps its list of protocols twice: in `alpnProtocols` of the wrapper,
which every call of `set_alpn_protocols` replaces, and in the Fizz context, which
is what a handshake negotiates with and which only a list with an element
replaces.  Both contexts do the same, so the histories of calls are studied on
the pair of lists alone.
-/

/-- The two lists that a context keeps. -/
structure AlpnSetting where
  alpnProtocols : List String
  supportedAlpns : List String
  deriving Repr, DecidableEq

namespace AlpnSetting

/-- What one call does to the two lists. -/
def set
    (setting : AlpnSetting)
    (protocols : List String) :
    AlpnSetting where
  alpnProtocols := protocols
  supportedAlpns :=
    if protocols = [] then setting.supportedAlpns else protocols

/-- Both lists are the one given. -/
def InStep
    (setting : AlpnSetting)
    (given : List String) :
    Prop :=
  setting.supportedAlpns = setting.alpnProtocols ∧
    setting.alpnProtocols = given

end AlpnSetting

/-- The lists of a client context. -/
def FizzClientContext.alpn (context : FizzClientContext) : AlpnSetting where
  alpnProtocols := context.alpnProtocols
  supportedAlpns := context.supportedAlpns

/-- The lists of a server context. -/
def FizzServerContext.alpn
    (context : FizzServerContext SelfCert) :
    AlpnSetting where
  alpnProtocols := context.alpnProtocols
  supportedAlpns := context.supportedAlpns

/-- `ClientTlsContext::set_alpn_protocols`, called with one list after another. -/
def clientAfter
    (context : FizzClientContext)
    (calls : List (List String)) :
    FizzClientContext :=
  calls.foldl clientContextSetAlpnProtocols context

/-- `ServerTlsContext::set_alpn_protocols`, called with one list after another. -/
def serverAfter
    (context : FizzServerContext SelfCert)
    (calls : List (List String)) :
    FizzServerContext SelfCert :=
  calls.foldl serverContextSetAlpnProtocols context

/-- After each call, the lists are the one given in that call. -/
def InStepAfterEachCall
    (alpnAfter : List (List String) → AlpnSetting)
    (calls : List (List String)) :
    Prop :=
  ∀ earlier latest later,
    calls = earlier ++ latest :: later →
      (alpnAfter (earlier ++ [latest])).InStep latest

/-- No call gives an empty list after a call that gave another one. -/
def NeverEmptied (calls : List (List String)) : Prop :=
  calls.Pairwise fun earlier later => later = [] → earlier = []

/-- The calls act on the lists of a client context alone. -/
theorem alpn_clientAfter
    (context : FizzClientContext)
    (calls : List (List String)) :
    (clientAfter context calls).alpn =
      calls.foldl AlpnSetting.set context.alpn := by
  unfold clientAfter
  induction calls generalizing context with
  | nil =>
      rfl
  | cons protocols rest inductionHypothesis =>
      exact inductionHypothesis
        (clientContextSetAlpnProtocols context protocols)

/-- The calls act on the lists of a server context alone. -/
theorem alpn_serverAfter
    (context : FizzServerContext SelfCert)
    (calls : List (List String)) :
    (serverAfter context calls).alpn =
      calls.foldl AlpnSetting.set context.alpn := by
  unfold serverAfter
  induction calls generalizing context with
  | nil =>
      rfl
  | cons protocols rest inductionHypothesis =>
      exact inductionHypothesis
        (serverContextSetAlpnProtocols context protocols)

namespace AlpnSetting

/-- Fizz still has no protocols as long as every list given was empty. -/
theorem supportedAlpns_foldl_eq_nil_iff
    (setting : AlpnSetting)
    (calls : List (List String)) :
    (calls.foldl set setting).supportedAlpns = [] ↔
      setting.supportedAlpns = [] ∧ ∀ given ∈ calls, given = [] := by
  induction calls using List.reverseRecOn with
  | nil =>
      simp
  | append_singleton earlier latest inductionHypothesis =>
      rw [List.foldl_append, List.foldl_cons, List.foldl_nil, set]
      by_cases isEmpty : latest = []
      · rw [if_pos isEmpty, inductionHypothesis, List.forall_mem_append,
          List.forall_mem_singleton]
        simp [isEmpty]
      · rw [if_neg isEmpty]
        constructor
        · intro noProtocols
          exact (isEmpty noProtocols).elim
        · rintro ⟨_, allEmpty⟩
          exact allEmpty latest (by simp)

/-- After a call the lists agree unless it withdrew protocols. -/
theorem inStep_foldl_iff
    {setting : AlpnSetting}
    (fresh : setting.supportedAlpns = [])
    (earlier : List (List String))
    (latest : List String) :
    ((earlier ++ [latest]).foldl set setting).InStep latest ↔
      (latest = [] → ∀ given ∈ earlier, given = []) := by
  rw [List.foldl_append, List.foldl_cons, List.foldl_nil]
  by_cases isEmpty : latest = []
  · have stillNone :=
      supportedAlpns_foldl_eq_nil_iff setting earlier
    simp only [InStep, set, isEmpty, if_true, and_true, true_imp_iff]
    rw [stillNone]
    simp [fresh]
  · simp [InStep, set, isEmpty]

end AlpnSetting

/-- A relation between each entry and the earlier ones holds pairwise. -/
theorem neverEmptied_iff
    (calls : List (List String)) :
    NeverEmptied calls ↔
      ∀ earlier latest later,
        calls = earlier ++ latest :: later →
          latest = [] → ∀ given ∈ earlier, given = [] := by
  constructor
  · intro never earlier latest later shape isEmpty given member
    rw [NeverEmptied, shape, List.pairwise_append] at never
    exact never.2.2 given member latest (by simp) isEmpty
  · intro everySplit
    induction calls using List.reverseRecOn with
    | nil =>
        exact List.Pairwise.nil
    | append_singleton earlier latest inductionHypothesis =>
        rw [NeverEmptied, List.pairwise_append]
        refine ⟨?_, List.pairwise_singleton _ _, ?_⟩
        · apply inductionHypothesis
          intro before middle after shape
          exact everySplit before middle (after ++ [latest])
            (by rw [shape]; simp)
        · intro given member last isLast isEmpty
          rw [List.mem_singleton] at isLast
          subst last
          exact everySplit earlier latest [] rfl isEmpty given member

/-- From empty lists on, exactly withdrawing protocols gets out of step. -/
theorem inStepAfterEachCall_iff
    {alpnAfter : List (List String) → AlpnSetting}
    {setting : AlpnSetting}
    (follows : ∀ calls, alpnAfter calls = calls.foldl AlpnSetting.set setting)
    (fresh : setting.supportedAlpns = [])
    (calls : List (List String)) :
    InStepAfterEachCall alpnAfter calls ↔ NeverEmptied calls := by
  rw [neverEmptied_iff, InStepAfterEachCall]
  apply forall_congr'
  intro earlier
  apply forall_congr'
  intro latest
  apply forall_congr'
  intro later
  rw [follows, AlpnSetting.inStep_foldl_iff fresh]

/-- A fresh server context has no protocols. -/
theorem alpn_of_newServerTlsContext
    {X509 Key SelfCert : Type}
    {library : ServerLibrary X509 Key SelfCert}
    {context : FizzServerContext SelfCert}
    (made :
      (∃ parentCert delegatedCred,
        newServerTlsContext library parentCert delegatedCred =
          .ok context) ∨
      (∃ parentCert,
        newServerTlsContextNoDc library parentCert = .ok context)) :
    context.alpn = { alpnProtocols := [], supportedAlpns := [] } := by
  rcases made with ⟨parentCert, delegatedCred, creates⟩ |
    ⟨parentCert, creates⟩
  · unfold newServerTlsContext at creates
    split at creates
    · cases creates
    · cases creates
    · cases creates
      rfl
  · unfold newServerTlsContextNoDc at creates
    split at creates
    · cases creates
    · cases creates
      rfl

/--
For every sequence of `set_alpn_protocols` calls on a fresh client or server
context, what Fizz negotiates with is the list given last after each of the
calls, exactly when no call gives an empty list after a call that gave another
one.
-/
theorem alpn_inStep_iff
    {X509 Key SelfCert : Type}
    {library : ServerLibrary X509 Key SelfCert}
    {server : FizzServerContext SelfCert}
    (made :
      (∃ parentCert delegatedCred,
        newServerTlsContext library parentCert delegatedCred =
          .ok server) ∨
      (∃ parentCert,
        newServerTlsContextNoDc library parentCert = .ok server))
    (info : VerificationInfo)
    (caCertPath : String)
    (calls : List (List String)) :
    (InStepAfterEachCall
        (fun given =>
          (clientAfter (newClientTlsContext info caCertPath) given).alpn)
        calls ↔
      NeverEmptied calls) ∧
    (InStepAfterEachCall
        (fun given =>
          (clientAfter (newClientTlsContextNoDc caCertPath) given).alpn)
        calls ↔
      NeverEmptied calls) ∧
    (InStepAfterEachCall (fun given => (serverAfter server given).alpn)
        calls ↔
      NeverEmptied calls) := by
  have serverFresh : server.alpn.supportedAlpns = [] := by
    rw [alpn_of_newServerTlsContext made]
  exact
    ⟨inStepAfterEachCall_iff (alpn_clientAfter _) rfl calls,
      inStepAfterEachCall_iff (alpn_clientAfter _) rfl calls,
      inStepAfterEachCall_iff (alpn_serverAfter server) serverFresh calls⟩

/-- A server library that accepts everything. -/
def acceptingLibrary : ServerLibrary Unit Unit Unit where
  loadDCFromPEM _ := .ok (some ())
  pemReadX509 _ := some ()
  pemReadPrivateKey _ := some ()
  selfCert _ _ := .ok ()

theorem alpn_inStep_iff_sample :
    NeverEmptied [[], ["h2"], ["http/1.1", "h2"]] ∧
      InStepAfterEachCall
        (fun given =>
          (serverAfter (configured (.plain ())) given).alpn)
        [[], ["h2"], ["http/1.1", "h2"]] := by
  have never : NeverEmptied [[], ["h2"], ["http/1.1", "h2"]] := by
    simp [NeverEmptied]
  have made :
      newServerTlsContextNoDc acceptingLibrary
          { certPem := "", keyPem := "", sigSchemes := [] } =
        .ok (configured (.plain ())) := rfl
  exact ⟨never,
    (alpn_inStep_iff (.inr ⟨_, made⟩)
      { serviceName := ""
        validTime := 0
        expectedVerifyScheme := 0
        publicKeyDer := ""
        expiresAt := 0 }
      "" [[], ["h2"], ["http/1.1", "h2"]]).2.2.mpr never⟩

/--
After `["h2"]` and then the empty list, the wrapper of either context has no
protocols and Fizz still negotiates `h2`.
-/
theorem alpn_emptied_out_of_step :
    (clientAfter (newClientTlsContextNoDc "ca.pem") [["h2"], []]).alpn =
        { alpnProtocols := [], supportedAlpns := ["h2"] } ∧
      (serverAfter (configured (.plain ())) [["h2"], []]).alpn =
        { alpnProtocols := [], supportedAlpns := ["h2"] } ∧
      ¬ InStepAfterEachCall
        (fun given =>
          (clientAfter (newClientTlsContextNoDc "ca.pem") given).alpn)
        [["h2"], []] ∧
      ¬ InStepAfterEachCall
        (fun given =>
          (serverAfter (configured (.plain ())) given).alpn)
        [["h2"], []] := by
  refine ⟨rfl, rfl, ?_, ?_⟩
  · intro inStep
    have latest := (inStep [["h2"]] [] [] rfl).1
    cases latest
  · intro inStep
    have latest := (inStep [["h2"]] [] [] rfl).1
    cases latest

end FizzRs
