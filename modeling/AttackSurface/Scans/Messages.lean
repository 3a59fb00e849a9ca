import AttackSurface.Scans.Lifecycle

/-!
# What users read of a sensor's errors (`app/scans/messages.py`)

`friendly` maps each error line to a known explanation or to a general one.  It says something
exactly when some line is not blank (`friendly_eq_none_iff`).  Regular expressions are searched
by the standard library (`Re`); the patterns are those of the source.
-/

namespace App.Scans

open PyText AsmSensors List

/-- The module `re`, with `re.IGNORECASE`. -/
structure Re where
  /-- `re.compile(pattern, re.I).search(text)` finds a match -/
  search : Str → Str → Bool
  /-- `re.compile(pattern, re.I).sub(repl, text)` -/
  sub : Str → Str → Str → Str
  /-- what matches is replaced by `repl`, the rest stays -/
  sub_ne_nil : ∀ pattern repl text, repl ≠ [] → text ≠ [] → sub pattern repl text ≠ []

/-- `_KNOWN`: pattern and explanation, the first match wins. -/
def known : List (Str × Str) :=
  [ ( "no templates provided|templates directory.*empty|no templates were found".toList,
      "Detection content is not installed yet. It downloads when the scanner starts (about 1 GB) ".toList ++
       "— check that the scanner has internet access, then run the scan again.".toList ),
    ( "is not installed in this sensor worker|BinaryNotFound".toList,
      "This capability is not installed in the scanner deployed here.".toList ),
    ( "(open-source intelligence|osint|spiderfoot).\x7b0,40\x7dnot enabled|spiderfoot_url".toList,
      "Open-source intelligence enrichment is not enabled in this deployment.".toList ),
    ( "(web application scanner|zap).\x7b0,40\x7dnot enabled|zap_url unset|integration is not ".toList ++
       "enabled".toList,
      "The web application scanner is not enabled in this deployment.".toList ),
    ( "not enabled in this deployment".toList, "This capability is not enabled in this deployment.".toList ),
    ( "no Shodan API key|api key is configured for this tenant".toList,
      "No API key is stored for this data source (Integrations → Data-source API keys).".toList ),
    ( "key was rejected|HTTP 401|HTTP 403|Invalid API key".toList,
      "The stored API key for this data source was rejected. Check it under Integrations → ".toList ++
       "Data-source API keys.".toList ),
    ( "rate limit".toList, "The data source rate-limited this scan, so its results are incomplete.".toList ),
    ( "HTTPStatusError|HTTP \\d\x7b3\x7d|ConnectError|ConnectTimeout|ReadTimeout|unreachable".toList,
      "A data source did not answer, so its results are incomplete.".toList ),
    ( "timed out|TimeoutError|deadline".toList,
      "This stage ran out of time before it finished, so its results are incomplete.".toList ),
    ( "output exceeded the capture limit".toList,
      "This stage produced more output than the deployment's limit allows, so its results are ".toList ++
       "incomplete.".toList ),
    ( "stayed busy with another job".toList,
      "The web application scanner was busy with another scan and could not run here.".toList ),
    ( "cannot sign in to the application|missing the request-replacer".toList,
      "The scanner could not sign in to the application, so the pages behind the login were not ".toList ++
       "tested. The web application scanner in this deployment is missing the component that ".toList ++
       "injects the sign-in header — install it, or run the scan without a sign-in value.".toList ),
    ( "credential envelope|failed authentication".toList,
      "The scanner could not open this job's credentials. Check that the platform and scanner ".toList ++
       "keys match.".toList ),
    ( "egress policy".toList,
      "Some targets were not scanned because they resolve to addresses this deployment may not ".toList ++
       "contact.".toList ),
    ( "not scanned by egress policy".toList,
      "Some targets were not scanned because they resolve to addresses this deployment may not ".toList ++
       "contact.".toList ) ]

/-- `_ENGINE_WORDS`. -/
def engineWords : Str :=
  "\\b(nuclei|subfinder|amass|dnsx|httpx|naabu|zap|zaproxy|spiderfoot|bbot|shodan|crt\\.?sh|asnlookup|projectdiscovery|owasp)\\b".toList

variable (E : Re)

def explain (capability text : Str) : Str :=
  match known.find? fun e => E.search e.1 text with
  | some e => e.2
  | none =>
    if capability ≠ [] then capability ++ " did not finish successfully.".toList
    else "This stage did not finish successfully.".toList

/-- One round of the loop of `friendly`: blank lines are skipped, sentences are not repeated. -/
def addLine (capability : Str) (out : List Str) (line : Str) : List Str :=
  if strip line = [] then out
  else if explain E capability (strip line) ∈ out then out
  else out ++ [explain E capability (strip line)]

def friendly (messages : List Str) (capability : Str) : Option Str :=
  let out := messages.foldl (addLine E capability) []
  if out = [] then none
  else some ((E.sub engineWords "the scan engine".toList ([' '].intercalate out)).take 4000)

/-- The messages of the platform; `labelFor` are the adapters' display names. -/
def messagesOf (labelFor : Str → Str) : Messages := ⟨friendly E, labelFor⟩

section Friendly

variable {E : Re} {capability : Str}

lemma known_ne_nil : ∀ e ∈ known, e.2 ≠ [] := by
  simp only [known, forall_mem_cons, ne_eq, String.toList_eq_nil_iff, append_eq_nil_iff, String.reduceEq,
    not_false_eq_true, and_self, not_mem_nil, false_implies, implies_true]

lemma explain_ne_nil (text : Str) : explain E capability text ≠ [] := by
  unfold explain
  split
  · next e he => exact known_ne_nil e (mem_of_find?_eq_some he)
  · split <;> simp

lemma addLine_eq_nil_iff {out : List Str} {line : Str} :
    addLine E capability out line = [] ↔ out = [] ∧ strip line = [] := by
  unfold addLine
  split
  · next hblank => simp [hblank]
  next hblank =>
  split
  · next hmem =>
    constructor
    · intro hnil
      rw [hnil] at hmem
      cases hmem
    · exact fun h => absurd h.2 hblank
  · simp [hblank]

lemma foldl_addLine_eq_nil_iff (messages : List Str) (out : List Str) :
    messages.foldl (addLine E capability) out = [] ↔ out = [] ∧ ∀ line ∈ messages, strip line = [] := by
  induction messages generalizing out with
  | nil => simp
  | cons line messages ih => rw [foldl_cons, ih, addLine_eq_nil_iff, forall_mem_cons, and_assoc]

lemma foldl_addLine_ne_nil (messages : List Str) (out : List Str) (hout : ∀ s ∈ out, s ≠ []) :
    ∀ s ∈ messages.foldl (addLine E capability) out, s ≠ [] := by
  induction messages generalizing out with
  | nil => exact hout
  | cons line messages ih =>
    refine ih _ ?_
    unfold addLine
    split
    · exact hout
    split
    · exact hout
    intro s hs
    rcases mem_append.1 hs with hs | hs
    · exact hout s hs
    · rw [mem_singleton.1 hs]
      exact explain_ne_nil _

lemma friendly_eq_none_iff {messages : List Str} :
    friendly E messages capability = none ↔ ∀ line ∈ messages, strip line = [] := by
  have hfold : messages.foldl (addLine E capability) [] = [] ↔ _ := foldl_addLine_eq_nil_iff messages []
  unfold friendly
  dsimp only
  split
  · next hnil => exact iff_of_true rfl (hfold.1 hnil).2
  · next hne => exact iff_of_false (by simp) fun hblank => hne (hfold.2 ⟨rfl, hblank⟩)

lemma intercalate_ne_nil {sep : Str} {out : List Str} (hne : out ≠ []) (hout : ∀ s ∈ out, s ≠ []) :
    sep.intercalate out ≠ [] := by
  cases out with
  | nil => exact absurd rfl hne
  | cons s out =>
    have hs : s ≠ [] := hout s mem_cons_self
    cases out with
    | nil => simpa [intercalate] using hs
    | cons t out => simp [intercalate, hs]

lemma friendly_ne_nil {messages : List Str} {text : Str} (h : friendly E messages capability = some text) :
    text ≠ [] := by
  unfold friendly at h
  dsimp only at h
  split at h <;> cases h
  next hne =>
  have hjoined : [' '].intercalate (messages.foldl (addLine E capability) []) ≠ [] :=
    intercalate_ne_nil hne (foldl_addLine_ne_nil messages [] fun s hs => by cases hs)
  have hsub := E.sub_ne_nil engineWords "the scan engine".toList _ (by decide) hjoined
  intro htake
  rcases take_eq_nil_iff.1 htake with h | h
  · cases h
  · exact hsub h

end Friendly

end App.Scans
