import ScalesetProxmox.Gh.Matrix

/-!
# Paging through the registered runners

`listRunnersByPrefix` of `internal/gh/reconciler.go` with its retries and its page cap. GitHub is a
function from the requests of one pass to their replies, so that every split into pages and every
failure is covered. The loop stops at the first page without a successor, or at the cap; in the
second case it says that the listing is truncated.

`listRunnersByPrefix_serve` is what the loop computes against a scope that answers as documented:
the first `maxListPages * perPage` runners, truncated exactly when there are more.
-/

namespace ScalesetProxmox.Gh

variable {start name : String} {out runners : Runners} {truncated : Bool}

structure ListedRunner where
  id : ℤ
  name : String
  status : String
  busy : Bool
  deriving DecidableEq, Repr

/-- A page of runners; `nextPage` is absent when the client hands back no response. -/
structure Page where
  runners : List ListedRunner
  nextPage : Option ℕ
  deriving DecidableEq, Repr

/-- The page to ask for next, absent when there is no response or it names none. -/
def Page.next (page : Page) : Option ℕ := page.nextPage.filter (· ≠ 0)

/-- What one request comes back with; a failure has a status if there was a response at all. -/
inductive Reply
  | page (page : Page)
  | failed (status : Option ℕ)
  deriving DecidableEq, Repr

/-- Replies by iteration of the loop, requested page number and attempt. -/
abbrev Api := ℕ → ℕ → ℕ → Reply

def maxListPages : ℕ := 50

def perPage : ℕ := 100

def listPageMaxTries : ℕ := 3

def isTransientListError : Option ℕ → Bool
  | none => true
  | some status => status = 429 ∨ (500 ≤ status ∧ status ≤ 599)

/-- Ask again after a transient failure, `retries` times at most. -/
def retryPage (request : ℕ → Reply) (attempt retries : ℕ) : Except (Option ℕ) Page :=
  match request attempt with
  | .page page => .ok page
  | .failed status =>
    if isTransientListError status then
      match retries with
      | 0 => .error status
      | retries + 1 => retryPage request (attempt + 1) retries
    else
      .error status

def listRunnersPageWithRetry (request : ℕ → Reply) : Except (Option ℕ) Page :=
  retryPage request 0 (listPageMaxTries - 1)

def ListedRunner.info (runner : ListedRunner) : RunnerInfo where
  id := runner.id
  online := runner.status = "online"
  busy := runner.busy

/-- Record a runner whose name has the prefix; a name seen before is overwritten. -/
def addRunner (start : String) (out : Runners) (runner : ListedRunner) : Runners :=
  if Text.hasPrefix runner.name start then out.insert runner.name runner.info else out

def addPage (start : String) (out : Runners) (runners : List ListedRunner) : Runners :=
  runners.foldl (addRunner start) out

/-- The loop from iteration `i` on, with `left` pages to go before the cap. -/
def listPages (api : Api) (start : String) (left i number : ℕ) (out : Runners) :
    Except (Option ℕ) (Runners × Bool) :=
  match left with
  | 0 => .ok (out, true)
  | left + 1 =>
    match listRunnersPageWithRetry (api i number) with
    | .error status => .error status
    | .ok page =>
      match page.next with
      | none => .ok (addPage start out page.runners, false)
      | some number => listPages api start left (i + 1) number (addPage start out page.runners)

namespace Listing

/-- The registered runners whose name has the prefix, and whether the cap cut the listing short. -/
def listRunnersByPrefix (api : Api) (start : String) : Except (Option ℕ) (Runners × Bool) :=
  listPages api start maxListPages 0 0 ∅

end Listing

/-! ## Which runners a listing holds -/

/-- The pages the loop receives. -/
def fetchedPages (api : Api) (left i number : ℕ) : List Page :=
  match left with
  | 0 => []
  | left + 1 =>
    match listRunnersPageWithRetry (api i number) with
    | .error _ => []
    | .ok page =>
      match page.next with
      | none => [page]
      | some number => page :: fetchedPages api left (i + 1) number

/-- Some page that a pass receives lists a runner of this name. -/
def OnFetchedPage (api : Api) (name : String) : Prop :=
  ∃ page ∈ fetchedPages api maxListPages 0 0, ∃ runner ∈ page.runners, runner.name = name

theorem lookup_addRunner_isSome {runner : ListedRunner} :
    ((addRunner start out runner).lookup name).isSome ↔
      (out.lookup name).isSome ∨ Text.hasPrefix name start ∧ runner.name = name := by
  unfold addRunner
  by_cases hname : name = runner.name
  · subst hname
    by_cases hpre : Text.hasPrefix runner.name start = true <;> simp [hpre]
  · by_cases hpre : Text.hasPrefix runner.name start = true <;>
      simp [hpre, AList.lookup_insert_ne hname, Ne.symm hname]

theorem lookup_addPage_isSome {runners : List ListedRunner} :
    ((addPage start out runners).lookup name).isSome ↔
      (out.lookup name).isSome ∨
        Text.hasPrefix name start ∧ ∃ runner ∈ runners, runner.name = name := by
  induction runners generalizing out with
  | nil => simp [addPage]
  | cons runner rest ih =>
    have hrest : addPage start out (runner :: rest) = addPage start (addRunner start out runner) rest :=
      rfl
    rw [hrest, ih, lookup_addRunner_isSome]
    simp only [List.exists_mem_cons_iff]
    tauto

theorem lookup_listPages_isSome {api : Api} {left i number : ℕ}
    (h : listPages api start left i number out = .ok (runners, truncated)) :
    (runners.lookup name).isSome ↔
      (out.lookup name).isSome ∨ Text.hasPrefix name start ∧
        ∃ page ∈ fetchedPages api left i number, ∃ runner ∈ page.runners, runner.name = name := by
  induction left generalizing i number out with
  | zero =>
    simp only [listPages, Except.ok.injEq, Prod.mk.injEq] at h
    simp [fetchedPages, h.1]
  | succ left ih =>
    unfold listPages at h
    unfold fetchedPages
    cases hreply : listRunnersPageWithRetry (api i number) with
    | error status => simp [hreply] at h
    | ok page =>
      simp only [hreply] at h ⊢
      cases hnext : page.next with
      | none =>
        simp only [hnext, Except.ok.injEq, Prod.mk.injEq] at h
        rw [← h.1, lookup_addPage_isSome]
        simp
      | some following =>
        simp only [hnext] at h
        rw [ih h, lookup_addPage_isSome, or_assoc, ← and_or_left]
        simp only [List.exists_mem_cons_iff]

theorem lookup_listRunnersByPrefix_isSome {api : Api}
    (h : Listing.listRunnersByPrefix api start = .ok (runners, truncated)) :
    (runners.lookup name).isSome ↔ Text.hasPrefix name start ∧ OnFetchedPage api name := by
  rw [lookup_listPages_isSome h]
  simp [OnFetchedPage]

/-! ## A scope that answers as documented -/

/-- A scope with these runners registered: pages are counted from one, an unset page number asks
for the first, and the last page names no successor. -/
def serve (registered : List ListedRunner) : Api := fun _ number _ ↦
  .page
    { runners := (registered.drop ((number - 1) * perPage)).take perPage
      nextPage := some
        (if (number - 1) * perPage + perPage < registered.length then number - 1 + 2 else 0) }

theorem addPage_append (start : String) (out : Runners) (front back : List ListedRunner) :
    addPage start out (front ++ back) = addPage start (addPage start out front) back :=
  List.foldl_append

/-- From any page on, the loop adds as many full pages as the cap still allows. -/
theorem listPages_serve (registered : List ListedRunner) (start : String) (left i number : ℕ)
    (out : Runners) (hmore : left = 0 → (number - 1) * perPage < registered.length) :
    listPages (serve registered) start left i number out =
      .ok (addPage start out ((registered.drop ((number - 1) * perPage)).take (left * perPage)),
        decide ((number - 1) * perPage + left * perPage < registered.length)) := by
  induction left generalizing i number out with
  | zero => simpa [listPages, addPage] using hmore rfl
  | succ left ih =>
    have hsplit : (left + 1) * perPage = perPage + left * perPage := by
      rw [Nat.add_mul, Nat.one_mul, Nat.add_comm]
    unfold listPages
    simp only [listRunnersPageWithRetry, retryPage, serve, Page.next]
    by_cases hlast : (number - 1) * perPage + perPage < registered.length
    · -- a further page: its offset is this page's plus one page
      have hnumber : (number - 1 + 2 - 1) * perPage = (number - 1) * perPage + perPage := by
        rw [Nat.add_sub_assoc (by decide), Nat.add_mul, Nat.one_mul]
      simp only [hlast, if_true]
      rw [Option.filter_some_pos (by simp)]
      dsimp only
      rw [ih _ _ _ (fun _ ↦ by rw [hnumber]; exact hlast), ← addPage_append, hnumber, hsplit,
        ← List.drop_drop, ← List.take_add]
      simp [Nat.add_assoc]
    · -- the last page: nothing is left for the pages the cap would still allow
      have hall : (registered.drop ((number - 1) * perPage)).length ≤ perPage := by
        rw [List.length_drop]
        omega
      have hdone : ¬((number - 1) * perPage + (left + 1) * perPage < registered.length) := by omega
      simp only [hlast, hdone, if_false]
      rw [List.take_of_length_le hall, List.take_of_length_le (by omega),
        Option.filter_some_neg (by simp)]
      simp

/-- Against a scope that answers as documented, the listing holds the first five thousand runners
and is truncated exactly when there are more. -/
theorem listRunnersByPrefix_serve (registered : List ListedRunner) (start : String) :
    Listing.listRunnersByPrefix (serve registered) start =
      .ok (addPage start ∅ (registered.take (maxListPages * perPage)),
        decide (maxListPages * perPage < registered.length)) := by
  rw [Listing.listRunnersByPrefix, listPages_serve _ _ _ _ _ _ (by simp [maxListPages])]
  simp

/-- Every registered runner under its name. -/
def registry (registered : List ListedRunner) : Runners := addPage "" ∅ registered

theorem lookup_addPage (start name : String) (runners : List ListedRunner) {all : Runners}
    (hout : out.lookup name = if Text.hasPrefix name start then all.lookup name else none) :
    (addPage start out runners).lookup name =
      if Text.hasPrefix name start then (addPage "" all runners).lookup name else none := by
  induction runners generalizing out all with
  | nil => exact hout
  | cons runner rest ih =>
    refine @ih (addRunner start out runner) (addRunner "" all runner) ?_
    have hall : Text.hasPrefix runner.name "" := by simp [Text.hasPrefix]
    by_cases hname : name = runner.name
    · subst hname
      by_cases hpre : Text.hasPrefix runner.name start = true <;> simp [addRunner, hpre, hall, hout]
    · by_cases hpre : Text.hasPrefix runner.name start = true <;>
        simp [addRunner, hpre, hall, AList.lookup_insert_ne hname, hout]

/-- Up to the cap, paging through a scope finds what one look at all its runners finds. -/
theorem lookup_serve_of_length_le {registered : List ListedRunner}
    (hlength : registered.length ≤ maxListPages * perPage)
    (h : Listing.listRunnersByPrefix (serve registered) start = .ok (runners, truncated)) (name : String) :
    runners.lookup name = (listRunnersByPrefix (registry registered) start).lookup name := by
  rw [listRunnersByPrefix_serve, Except.ok.injEq, Prod.mk.injEq, List.take_of_length_le hlength] at h
  rw [← h.1, lookup_listRunnersByPrefix, registry]
  exact lookup_addPage start name registered (by simp)

/-- A hundred runners of another scale set fill the first page. -/
def twoPages : List ListedRunner :=
  List.replicate 100 ⟨1, "gpu-1", "online", false⟩ ++ [⟨2, "ci-2", "online", true⟩]

/-- The runner on the second page is found. -/
theorem lookup_serve_two : ∃ listed, Listing.listRunnersByPrefix (serve twoPages) "ci" = .ok listed ∧
    listed.1.lookup "ci-2" = (listRunnersByPrefix (registry twoPages) "ci").lookup "ci-2" ∧
    listed.1.lookup "ci-2" = some ⟨2, true, true⟩ :=
  ⟨_, listRunnersByPrefix_serve _ _,
    lookup_serve_of_length_le (by decide +kernel) (listRunnersByPrefix_serve _ _) "ci-2",
    by decide +kernel⟩

end ScalesetProxmox.Gh
