import PageRisk.Proofs.Cache.Timestamps

set_option autoImplicit false

/-! # Decisions on the pages of different hosts

Pages of different hosts have different entries in the cache, and a decision reads no entry but its own
(`ReadAlike`). Where reputation is a function of the URL, the decisions on such pages are therefore all
made as over the store at the start, and what they leave there can be told by the pages alone, not by
their order (`Decided`). So the order does not matter (`evaluate_perm`). -/

namespace PageRisk

/-- The host under whose key the assessment of a page is kept: `Gate.evaluate` and `Cache.key` both
    normalize. -/
def Page.cacheHost (page : Page) : String :=
  Hostname.normalize (Hostname.normalize page.hostname)

namespace Gate

open Surroundings

/-! ## Decisions over the store at the start -/

/-- Whether nothing is `standing` for the page, so that it is to be assessed. -/
def Undecided (t : Table Json) (page : Page) : Prop :=
  standing none t 0 (Hostname.normalize page.hostname) = none

instance (t : Table Json) (page : Page) : Decidable (Undecided t page) :=
  inferInstanceAs (Decidable (_ = none))

variable (config : ScoringConfig) (reputation : String → Reputation.Outcome)

/-- The `verdict` on a page, where reputation is a function of the URL. -/
def freshly (page : Page) : Assessment :=
  verdict config reputation (Hostname.normalize page.hostname) page.csp

/-- The decision on a page over a store: what is `standing`, and else `freshly`. -/
def decision (t : Table Json) (page : Page) : Outcome :=
  (standing none t 0 (Hostname.normalize page.hostname)).getD
    (.scored (freshly config reputation page) .fresh)

/-- The URLs that are asked for to decide on a page over a store: its `questions` if it is `Undecided`. -/
def asks (t : Table Json) (page : Page) : List String :=
  if Undecided t page then questions config (Hostname.normalize page.hostname) page.csp else []

/-- What the decisions on some pages leave of a store: the assessments that were made, each under the key of
    its host, and all else as it was. -/
structure Decided (pages : List Page) (t t' : Table Json) : Prop where
  frame : ∀ k, (∀ page ∈ pages, Undecided t page → k ≠ Cache.keyStart ++ page.cacheHost) →
    t'.get? k = t.get? k
  kept : ∀ page ∈ pages, Undecided t page → ∃ time,
    t'.get? (Cache.keyStart ++ page.cacheHost)
      = some (CacheEntry.ofAssessment (freshly config reputation page) time).toStored

variable {config : ScoringConfig} {reputation : String → Reputation.Outcome}

/-! ## Reading alike -/

section ReadAlike

variable {t u : Table Json} {page : Page}

theorem ReadAlike.undecided_iff (h : ReadAlike t u (Hostname.normalize page.hostname)) :
    Undecided t page ↔ Undecided u page := by
  rw [Undecided, Undecided, h.standing_eq 0 0]

theorem ReadAlike.decision_eq (h : ReadAlike t u (Hostname.normalize page.hostname)) :
    decision config reputation t page = decision config reputation u page := by
  rw [decision, decision, h.standing_eq 0 0]

theorem ReadAlike.asks_eq (h : ReadAlike t u (Hostname.normalize page.hostname)) :
    asks config t page = asks config u page := by
  unfold asks
  rw [if_congr h.undecided_iff rfl rfl]

end ReadAlike

/-! ## One page -/

/-- The decision on one page leaves pages with another `cacheHost` to be decided on as before. -/
theorem Decided.readAlike {p q : Page} {t t' : Table Json}
    (h : Decided config reputation [p] t t') (hne : p.cacheHost ≠ q.cacheHost) :
    ReadAlike t' t (Hostname.normalize q.hostname) := by
  have hframe : ∀ k, k ≠ Cache.keyStart ++ p.cacheHost → t'.get? k = t.get? k := fun k hk =>
    h.frame k fun page hpage _ => by rwa [List.mem_singleton.1 hpage]
  have hkey : Cache.key (Hostname.normalize q.hostname) ≠ Cache.keyStart ++ p.cacheHost := fun heq =>
    hne ((String.append_right_inj Cache.keyStart).1 heq).symm
  exact {
    enabled := hframe _ (Cache.ne_keyStart_append Cache.settingKeys_not_isKey.1 _)
    allowlist := hframe _ (Cache.ne_keyStart_append Cache.settingKeys_not_isKey.2.2 _)
    kept := by rw [Cache.kept?, hframe _ hkey, Cache.kept?] }

theorem perform_evaluate_page (reputation : String → Reputation.Outcome) (clock : Nat → Int64)
    (hage : config.cacheMaxAge = none) (page : Page) (w : Situation (Table Json)) :
    ∃ w', (inMemory (fun _ => reputation) clock).perform (evaluate config page) w
        = (.ok (decision config reputation w.stored page), w')
      ∧ w'.asked = asks config w.stored page ++ w.asked
      ∧ Decided config reputation [page] w.stored w'.stored := by
  have hperform := perform_evaluate_inMemory (fun _ => reputation) clock hage page w
  simp only [standing_none_eq w.stored (clock w.readings) 0] at hperform
  rw [hperform, decision, asks]
  cases hstanding : standing none w.stored 0 (Hostname.normalize page.hostname) with
  | some outcome =>
    have hdecided : ¬ Undecided w.stored page := by simp [Undecided, hstanding]
    refine ⟨w, rfl, ?_, fun k _ => rfl, fun q hq hundecided => ?_⟩
    · rw [if_neg hdecided, List.nil_append]
    · rw [List.mem_singleton.1 hq] at hundecided
      exact absurd hundecided hdecided
  | none =>
    have hundecided : Undecided w.stored page := hstanding
    refine ⟨_, rfl, ?_, fun k hk => ?_, fun q hq _ => ?_⟩
    · rw [if_pos hundecided]
      rfl
    · exact Table.get?_insert_of_ne _ _ (hk page List.mem_cons_self hundecided)
    · rw [List.mem_singleton.1 hq]
      exact ⟨clock w.readings, Table.get?_insert_self _ _ _⟩

/-! ## Any number of pages -/

/-- A page that is `Decided` and then pages with another `cacheHost` are all `Decided`. -/
theorem Decided.cons {page : Page} {rest : List Page} {t t₁ t₂ : Table Json}
    (hfirst : Decided config reputation [page] t t₁)
    (hdistinct : ∀ q ∈ rest, page.cacheHost ≠ q.cacheHost)
    (hrest : Decided config reputation rest t₁ t₂) :
    Decided config reputation (page :: rest) t t₂ where
  frame k hk := by
    have hlater : t₂.get? k = t₁.get? k := hrest.frame k fun q hq hundecided =>
      hk q (List.mem_cons_of_mem _ hq) ((hfirst.readAlike (hdistinct q hq)).undecided_iff.1 hundecided)
    refine hlater.trans (hfirst.frame k fun q hq => ?_)
    rw [List.mem_singleton.1 hq]
    exact hk page List.mem_cons_self
  kept q hq hundecided := by
    rcases List.mem_cons.1 hq with rfl | hq
    · -- The later pages are those of other hosts and do not touch this entry.
      have hlater : t₂.get? (Cache.keyStart ++ q.cacheHost) = t₁.get? (Cache.keyStart ++ q.cacheHost) :=
        hrest.frame _ fun other hother _ heq =>
          hdistinct other hother ((String.append_right_inj Cache.keyStart).1 heq)
      rw [hlater]
      exact hfirst.kept q List.mem_cons_self hundecided
    · exact hrest.kept q hq ((hfirst.readAlike (hdistinct q hq)).undecided_iff.2 hundecided)

/-- Pages with different `cacheHost`s are all decided on as over the store at the start. -/
theorem perform_evaluate_pages (reputation : String → Reputation.Outcome) (clock : Nat → Int64)
    (hage : config.cacheMaxAge = none) {pages : List Page}
    (hdistinct : pages.Pairwise fun p q => p.cacheHost ≠ q.cacheHost)
    (w : Situation (Table Json)) :
    ∃ w', (inMemory (fun _ => reputation) clock).perform (pages.mapM (evaluate config)) w
        = (.ok (pages.map (decision config reputation w.stored)), w')
      ∧ w'.asked = pages.reverse.flatMap (asks config w.stored) ++ w.asked
      ∧ Decided config reputation pages w.stored w'.stored := by
  induction pages generalizing w with
  | nil => exact ⟨w, rfl, rfl, fun _ _ => rfl, fun _ hpage => absurd hpage List.not_mem_nil⟩
  | cons page rest ih =>
    obtain ⟨hpage, hrest⟩ := List.pairwise_cons.1 hdistinct
    obtain ⟨w₁, hperform, hasked, hdecided⟩ :=
      perform_evaluate_page reputation clock hage page w
    obtain ⟨w₂, hperforms, haskeds, hdecideds⟩ := ih hrest w₁
    -- To the other pages the store reads as it did before this one.
    have halike : ∀ q ∈ rest, ReadAlike w₁.stored w.stored (Hostname.normalize q.hostname) :=
      fun q hq => hdecided.readAlike (hpage q hq)
    have houtcomes : rest.map (decision config reputation w₁.stored)
        = rest.map (decision config reputation w.stored) :=
      List.map_congr_left fun q hq => (halike q hq).decision_eq
    have hquestions : rest.reverse.flatMap (asks config w₁.stored)
        = rest.reverse.flatMap (asks config w.stored) :=
      List.flatMap_congr fun q hq => (halike q (List.mem_reverse.1 hq)).asks_eq
    refine ⟨w₂, ?_, ?_, hdecided.cons hpage hdecideds⟩
    · rw [List.mapM_cons, perform_bind_of_ok hperform, perform_bind_of_ok hperforms, perform_pure,
        houtcomes, List.map_cons]
    · rw [haskeds, hasked, hquestions, List.reverse_cons, List.flatMap_append,
        List.flatMap_singleton, List.append_assoc]

/-- What is left where pages are `Decided` does not depend on their order, up to the times of the
    entries. -/
theorem Decided.sameUpToTime {pages order : List Page} {t u v : Table Json}
    (hu : Decided config reputation pages t u) (hv : Decided config reputation order t v)
    (horder : order.Perm pages) : Cache.SameUpToTime u v := by
  intro k
  by_cases hmade : ∃ page ∈ pages, Undecided t page ∧ k = Cache.keyStart ++ page.cacheHost
  · obtain ⟨page, hpage, hundecided, rfl⟩ := hmade
    obtain ⟨time, hkept⟩ := hu.kept page hpage hundecided
    obtain ⟨time', hkept'⟩ := hv.kept page (horder.mem_iff.2 hpage) hundecided
    exact .inr ⟨Cache.isKey_keyStart_append _, _, time, time', hkept, hkept'⟩
  · have hother : ∀ page ∈ pages, Undecided t page → k ≠ Cache.keyStart ++ page.cacheHost :=
      fun page hpage hundecided heq => hmade ⟨page, hpage, hundecided, heq⟩
    left
    rw [hu.frame k hother, hv.frame k fun page hpage => hother page (horder.mem_iff.1 hpage)]

/-- Over any store in memory, where reputation is a function of the URL and entries do not age, pages with
    different `cacheHost`s can be decided on in any order, whatever the clock says: each gets the outcome
    that it gets alone, the same URLs are asked for, and the stores at the end have `Cache.SameUpToTime`.
    Two pages in both orders are the case of two lists. -/
theorem evaluate_perm (clock clock' : Nat → Int64) (hage : config.cacheMaxAge = none)
    {pages order : List Page} (hdistinct : pages.Pairwise fun p q => p.cacheHost ≠ q.cacheHost)
    (horder : order.Perm pages) (w : Situation (Table Json)) :
    ∃ (outcome : Page → Outcome) (w₁ w₂ : Situation (Table Json)) (asked asked' : List String),
      (∀ page ∈ pages, ((inMemory (fun _ => reputation) clock).perform (evaluate config page) w).1
        = .ok (outcome page))
      ∧ (inMemory (fun _ => reputation) clock).perform (pages.mapM (evaluate config)) w
        = (.ok (pages.map outcome), w₁)
      ∧ (inMemory (fun _ => reputation) clock').perform (order.mapM (evaluate config)) w
        = (.ok (order.map outcome), w₂)
      ∧ w₁.asked = asked ++ w.asked ∧ w₂.asked = asked' ++ w.asked ∧ asked'.Perm asked
      ∧ Cache.SameUpToTime w₁.stored w₂.stored := by
  have hdistinct' : order.Pairwise fun p q => p.cacheHost ≠ q.cacheHost :=
    (horder.pairwise_iff fun hne => hne.symm).2 hdistinct
  obtain ⟨w₁, hperform, hasked, hdecided⟩ :=
    perform_evaluate_pages reputation clock hage hdistinct w
  obtain ⟨w₂, hperform', hasked', hdecided'⟩ :=
    perform_evaluate_pages reputation clock' hage hdistinct' w
  refine ⟨decision config reputation w.stored, w₁, w₂, _, _, fun page _ => ?_, hperform, hperform',
    hasked, hasked', ?_, hdecided.sameUpToTime hdecided' horder⟩
  · obtain ⟨w', halone, -⟩ := perform_evaluate_page reputation clock hage page w
    rw [halone]
  · have hreverse : order.reverse.Perm pages.reverse :=
      (order.reverse_perm.trans horder).trans pages.reverse_perm.symm
    exact hreverse.flatMap_right _

/-- The pages of two hosts. -/
def twoHosts : List Page :=
  [⟨"www.Example.com", some "script-src *"⟩, ⟨"https://example.org/", none⟩]

theorem twoHosts_perm :
    twoHosts.Pairwise (fun p q => p.cacheHost ≠ q.cacheHost) ∧ twoHosts.reverse.Perm twoHosts
      ∧ ∃ (outcome : Page → Outcome) (w₁ w₂ : Situation (Table Json)) (asked asked' : List String),
        (∀ page ∈ twoHosts, ((inMemory (fun _ _ => .unavailable) fun _ => 0).perform
          (evaluate {} page) { stored := Table.empty }).1 = .ok (outcome page))
        ∧ (inMemory (fun _ _ => .unavailable) fun _ => 0).perform (twoHosts.mapM (evaluate {}))
          { stored := Table.empty } = (.ok (twoHosts.map outcome), w₁)
        ∧ (inMemory (fun _ _ => .unavailable) fun _ => 1).perform
          (twoHosts.reverse.mapM (evaluate {})) { stored := Table.empty }
          = (.ok (twoHosts.reverse.map outcome), w₂)
        ∧ w₁.asked = asked ++ [] ∧ w₂.asked = asked' ++ [] ∧ asked'.Perm asked
        ∧ Cache.SameUpToTime w₁.stored w₂.stored := by
  have hdistinct : twoHosts.Pairwise fun p q => p.cacheHost ≠ q.cacheHost := by decide +kernel
  exact ⟨hdistinct, twoHosts.reverse_perm,
    evaluate_perm (fun _ => 0) (fun _ => 1) rfl hdistinct twoHosts.reverse_perm _⟩

end Gate

end PageRisk
