import Mathlib
import ReqSys.FigmaGithub.Bidirectional

/-!
# The first direction, when no call fails

A source whose item has a link with an issue is only written into that link. Any other source gets
an issue, found by its marker or created, and a link with its number. What is written in the two
cases differs in one column: the hash of the issue is taken of the issue when it is found or
created, and of a stand-in without text when it is known from the link.
-/

namespace ReqSys

namespace FigmaGithub

open PyText

variable {cfg : Config} {sv : Services} {w : World} {s : State} {source : Source} {item : Item}
  {syncKind : String} {data : LinkData} {i : ℕ} {α : Type}

/-! ## The table -/

/-- The ids of the links are distinct, and a new link gets another one. -/
structure State.Keyed (s : State) : Prop where
  nodup : Table.Keyed Link.id s.session
  lt : ∀ l ∈ s.session, l.id < s.nextId

/-- The link of an item. -/
def State.find (s : State) (item : Item) : Option Link := s.session.find? (·.item = item)

/-- `_create_or_update_link`. -/
def State.put (s : State) (item : Item) (syncKind : String) (data : LinkData) : State :=
  (s.flush ((s.find item).map Link.id) item syncKind data).1

theorem State.put_of_none (h : s.find item = none) :
    s.put item syncKind data = { s with
      session := s.session ++ [{ id := s.nextId, item, syncKind, data }]
      nextId := s.nextId + 1 } := by
  rw [State.put, h]
  rfl

theorem State.put_of_some {l : Link} (h : s.find item = some l) :
    s.put item syncKind data = { s with
      session := Table.update Link.id l.id (fun l ↦ { l with data := data }) s.session } := by
  rw [State.put, h]
  rfl

theorem State.mem_of_find {l : Link} (h : s.find item = some l) : l ∈ s.session :=
  List.mem_of_find?_eq_some h

theorem State.item_of_find {l : Link} (h : s.find item = some l) : l.item = item := by
  simpa using List.find?_some h

@[simp] theorem State.links_put : (s.put item syncKind data).links = s.links := by
  cases h : s.find item with
  | none => rw [State.put_of_none h]
  | some l => rw [State.put_of_some h]

theorem State.Keyed.put (h : s.Keyed) : (s.put item syncKind data).Keyed := by
  cases hfind : s.find item with
  | none =>
    rw [State.put_of_none hfind]
    refine ⟨h.nodup.concat fun l hl ↦ (h.lt l hl).ne, fun l hl ↦ ?_⟩
    obtain hl | hl := List.mem_append.mp hl
    · exact (h.lt l hl).trans (Nat.lt_succ_self _)
    · rw [List.mem_singleton.mp hl]
      exact Nat.lt_succ_self _
  | some l =>
    rw [State.put_of_some hfind]
    refine ⟨h.nodup.keyed_update (f := fun l ↦ { l with data := data }) fun _ ↦ rfl,
      fun r hr ↦ ?_⟩
    obtain ⟨hr, -⟩ | ⟨r', hr', -, rfl⟩ := Table.mem_update hr
    · exact h.lt r hr
    · exact h.lt r' hr'

/-- What is found in a table whose rows are written but keep their items. -/
theorem find?_map_of_item {f : Link → Link} (hf : ∀ l, (f l).item = l.item) (rows : List Link)
    (item : Item) :
    (rows.map f).find? (·.item = item) = (rows.find? (·.item = item)).map f := by
  rw [List.find?_map]
  refine congrArg (Option.map f) (congrArg (List.find? · rows) (funext fun l ↦ ?_))
  simp only [Function.comp, hf]

/-- **The link of the item is written,** -/
theorem State.find_put_self (s : State) (item : Item) (syncKind : String) (data : LinkData) :
    ∃ l, (s.put item syncKind data).find item = some l ∧ l.data = data := by
  cases hfind : s.find item with
  | none =>
    rw [State.put_of_none hfind]
    refine ⟨{ id := s.nextId, item, syncKind, data }, ?_, rfl⟩
    rw [State.find] at hfind ⊢
    rw [List.find?_append, hfind]
    simp
  | some l =>
    rw [State.put_of_some hfind]
    refine ⟨{ l with data := data }, ?_, rfl⟩
    rw [State.find] at hfind ⊢
    rw [Table.update, find?_map_of_item (fun r ↦ by split <;> rfl), hfind, Option.map_some,
      if_pos rfl]

/-- and the links of other items stay. -/
theorem State.find_put_of_ne (h : s.Keyed) {item' : Item} (hne : item' ≠ item) :
    (s.put item syncKind data).find item' = s.find item' := by
  cases hfind : s.find item with
  | none =>
    rw [State.put_of_none hfind]
    rw [State.find, State.find, List.find?_append]
    simp [Ne.symm hne]
  | some l =>
    rw [State.put_of_some hfind]
    simp only [State.find]
    rw [Table.update, find?_map_of_item (fun r ↦ by split <;> rfl)]
    cases hfind' : s.find item' with
    | none =>
      rw [State.find] at hfind'
      rw [hfind', Option.map_none]
    | some r =>
      have hid : r.id ≠ l.id := fun heq ↦ by
        have hsame := h.nodup.eq_of_key_eq (mem_of_find hfind') (mem_of_find hfind) heq
        rw [← item_of_find hfind', ← item_of_find hfind, hsame] at hne
        exact hne rfl
      rw [State.find] at hfind'
      rw [hfind', Option.map_some, if_neg hid]

/-- Nothing is written that is there. -/
theorem State.put_self (h : s.Keyed) {l : Link} (hfind : s.find item = some l)
    (hdata : l.data = data) : s.put item syncKind data = s := by
  have hrows : Table.update Link.id l.id (fun r ↦ { r with data := data }) s.session
      = s.session := by
    rw [Table.update]
    conv_rhs => rw [← List.map_id s.session]
    refine List.map_congr_left fun r hr ↦ ?_
    split_ifs with hid
    · rw [h.nodup.eq_of_key_eq hr (mem_of_find hfind) hid, ← hdata]
      rfl
    · rfl
  rw [State.put_of_some hfind, hrows]

/-- A row is new, or one that was there with what is written. -/
theorem State.mem_put {r : Link} (hr : r ∈ (s.put item syncKind data).session) :
    r ∈ s.session ∨ r.data = data := by
  cases hfind : s.find item with
  | none =>
    rw [State.put_of_none hfind] at hr
    obtain hr | hr := List.mem_append.mp hr
    · exact .inl hr
    · rw [List.mem_singleton.mp hr]
      exact .inr rfl
  | some l =>
    rw [State.put_of_some hfind] at hr
    obtain ⟨hr, -⟩ | ⟨r', -, -, rfl⟩ := Table.mem_update hr
    · exact .inl hr
    · exact .inr rfl

/-! ## Calls that are answered -/

/-- No call fails. -/
def Answered (failure : Option Error) : Prop := failure = none

/-- The calls of the first direction in the world. -/
def baseWorld (cfg : Config) (sv : Services) : Machine Cmd.Ans Error World (Option Error) where
  exec _ op failure w :=
    match failure with
    | none => ((performBase cfg sv op w).1, .ok (performBase cfg sv op w).2)
    | some x => (w, .error x)
  close _ w := w

/-- A program of the first direction, with every call answered. -/
abbrev Ends (cfg : Config) (sv : Services) (i : ℕ) (Q : Except Error α → World → Prop)
    (p : Process α) (w : World) : Prop :=
  p.EndsIn (baseWorld cfg sv) i Answered Eq Q w

variable {Q : Except Error α → World → Prop}

theorem run_bind {op : Cmd} {f : op.Ans → Process α}
    (h : Ends cfg sv i Q (f (performBase cfg sv op w).2) (performBase cfg sv op w).1) :
    Ends cfg sv i Q (run op >>= f) w := by
  refine .perform_bind ?_
  rintro _ e rfl rfl
  exact ⟨_, rfl, h⟩

theorem run_attempt_bind {op : Cmd} {f : Except Error op.Ans → Process α}
    (h : Ends cfg sv i Q (f (.ok (performBase cfg sv op w).2)) (performBase cfg sv op w).1) :
    Ends cfg sv i Q ((run op).attempt >>= f) w := by
  rintro _ e rfl rfl
  exact h

/-- The first request for an issue is answered. -/
theorem createIssue_attempt_bind {title body : String} {f : Except Error Issue → Process α}
    (h : Ends cfg sv i Q (f (.ok (newIssue sv w.repo title body).issue))
      { w with repo := newIssue sv w.repo title body :: w.repo }) :
    Ends cfg sv i Q ((createIssue item title body).attempt >>= f) w := by
  rintro _ e rfl rfl
  exact h

theorem createOrUpdateLink_bind {f : ℕ → Process α}
    (h : ∀ id, Ends cfg sv i Q (f id) { w with db := w.db.put item syncKind data }) :
    Ends cfg sv i Q (createOrUpdateLink item syncKind data >>= f) w := by
  rw [createOrUpdateLink, Program.bind_assoc]
  exact run_bind (run_bind (h _))

/-! ## One source -/

/-- The item has a link with an issue. -/
def State.Linked (s : State) (item : Item) : Prop :=
  ∃ l, s.find item = some l ∧ l.numbered = true

/-- The issue of a link has no text. -/
def standIn : Issue where
  title := some ""
  body := some ""

/-- What is known of the hash of an issue: it is made of the title, the body and the state, and no
issue with a text has the hash of the stand-in. -/
structure Config.Hashes (cfg : Config) : Prop where
  congr : ∀ {x y : Issue}, x.title = y.title → x.body = y.body → x.state = y.state →
    cfg.hashIssue x = cfg.hashIssue y
  standIn : ∀ {x : Issue}, cfg.hashIssue x = cfg.hashIssue standIn → x.body = some ""

theorem Config.Hashes.issueOfLink (h : cfg.Hashes) (l : Link) :
    cfg.hashIssue (issueOfLink l) = cfg.hashIssue FigmaGithub.standIn := h.congr rfl rfl rfl

/-- What `_sync_one_to_github` writes into the link of a source. -/
structure Written (cfg : Config) (s : State) (source : Source) (data : LinkData) : Prop where
  numbered : data.githubIssueNumber.any (· ≠ 0) = true
  figmaHash : data.lastFigmaHash = some (cfg.hashSource source)
  /-- The hash is that of the stand-in when the item is linked already. -/
  githubHash : data.lastGithubHash = some (cfg.hashIssue standIn) ↔ s.Linked source.item

/-- What is written into a link that has an issue. -/
def rewritten (cfg : Config) (source : Source) (l : Link) : LinkData :=
  let conflict := truthy l.data.lastFigmaHash &&
    l.data.lastFigmaHash ≠ some (cfg.hashSource source)
  { githubIssueNumber := l.data.githubIssueNumber
    githubIssueUrl := l.data.githubIssueUrl
    lastFigmaHash := some (cfg.hashSource source)
    lastGithubHash := some (cfg.hashIssue (issueOfLink l))
    status := if conflict then "conflict_resolved_github" else "synced"
    conflictReason := if conflict then
      some "GitHub venceu divergencia entre Figma e issue vinculada." else none }

/-- The source of an item that is linked. -/
theorem linked_ends {l : Link} (hfind : w.db.find source.item = some l)
    (hnumbered : l.numbered = true) (result : SyncResult) :
    Ends cfg sv i (fun r w' ↦ ∃ result', r = .ok result' ∧ result'.created = result.created ∧
      result'.updated = result.updated ∧
      w' = { w with
        db := w.db.put source.item (orElse (some source.syncKind) "comment")
          (rewritten cfg source l) }) (syncOneToGithub cfg source result) w := by
  rw [syncOneToGithub]
  refine run_bind ?_
  have hlink : (performBase cfg sv (.findLink source.item) w).2 = some l := hfind
  rw [hlink]
  have hissue : findIssue source.item (some l) result
      = return (some (issueOfLink l), result) := by
    rw [findIssue, Option.filter_some, if_pos hnumbered]
  rw [hissue]
  change Ends cfg sv i _ (linkIssue cfg source (some l) (issueOfLink l) result) w
  rw [linkIssue]
  refine createOrUpdateLink_bind fun id ↦ ?_
  refine ⟨_, rfl, ?_, ?_, rfl⟩
  · dsimp only
    split <;> rfl
  · dsimp only
    split <;> rfl

theorem written_rewritten (hhash : cfg.Hashes) {l : Link} (hfind : s.find source.item = some l)
    (hnumbered : l.numbered = true) : Written cfg s source (rewritten cfg source l) where
  numbered := hnumbered
  figmaHash := rfl
  githubHash := iff_of_true (congrArg some (hhash.issueOfLink l)) ⟨l, hfind, hnumbered⟩

/-- A text with the marker is not empty. -/
theorem ne_empty_of_contains {fileKey text : String}
    (h : contains (buildMarker fileKey item) text = true) : text ≠ "" := by
  intro hempty
  rw [contains_iff, hempty, String.toList_empty, List.infix_nil] at h
  unfold buildMarker at h
  rw [String.toList_append, List.append_eq_nil_iff] at h
  have hend : " -->".toList ≠ [] := by decide
  exact hend h.2

theorem body_of_findIssueByMarker {repo : List RepoIssue} {fileKey : String} {x : RepoIssue}
    (h : findIssueByMarker repo (buildMarker fileKey item) = some x) : x.body ≠ some "" := by
  intro hbody
  have hcontains := List.find?_some h
  rw [hbody] at hcontains
  exact ne_empty_of_contains hcontains rfl

theorem written_of_issue (hhash : cfg.Hashes) (hnot : ¬s.Linked source.item) {x : RepoIssue}
    (hbody : x.body ≠ some "") (status : String) (reason : Option String) :
    Written cfg s source
      { githubIssueNumber := x.issue.number
        githubIssueUrl := x.issue.htmlUrl
        lastFigmaHash := some (cfg.hashSource source)
        lastGithubHash := some (cfg.hashIssue x.issue)
        status := status
        conflictReason := reason } where
  numbered := decide_eq_true x.number_pos.ne'
  figmaHash := rfl
  githubHash := iff_of_false (fun heq ↦ hbody (hhash.standIn (Option.some.inj heq))) hnot

/-- The source of an item that is not linked gets an issue, which is found or created. -/
theorem unlinked_ends (hhash : cfg.Hashes) (hnot : ¬w.db.Linked source.item)
    (result : SyncResult) :
    Ends cfg sv i (fun r w' ↦ ∃ result' data repo', r = .ok result' ∧
      result'.updated = result.updated ∧ Written cfg w.db source data ∧
      w' = { w with
        db := w.db.put source.item (orElse (some source.syncKind) "comment") data
        repo := repo' }) (syncOneToGithub cfg source result) w := by
  rw [syncOneToGithub]
  refine run_bind ?_
  have hlink : (performBase cfg sv (.findLink source.item) w).2 = w.db.find source.item := rfl
  have hfilter : (w.db.find source.item).filter Link.numbered = none := by
    cases hfind : w.db.find source.item with
    | none => rfl
    | some l => exact if_neg fun hnumbered ↦ hnot ⟨l, hfind, hnumbered⟩
  rw [hlink, findIssue, hfilter, Program.bind_assoc]
  refine run_attempt_bind ?_
  cases hfound : findIssueByMarker w.repo (buildMarker cfg.fileKey source.item) with
  | some x =>
    have hanswer : (performBase cfg sv (.findIssueByMarker source.item) w).2 = some x.issue :=
      congrArg (Option.map RepoIssue.issue) hfound
    rw [show (performBase cfg sv (.findLink source.item) w).1 = w from rfl, hanswer]
    change Ends cfg sv i _ (linkIssue cfg source (w.db.find source.item) x.issue result) w
    rw [linkIssue]
    refine createOrUpdateLink_bind fun id ↦ ?_
    refine ⟨_, _, w.repo, rfl, ?_,
      written_of_issue hhash hnot (body_of_findIssueByMarker hfound) _ _, rfl⟩
    dsimp only
    split <;> rfl
  | none =>
    have hanswer : (performBase cfg sv (.findIssueByMarker source.item) w).2 = none :=
      congrArg (Option.map RepoIssue.issue) hfound
    rw [show (performBase cfg sv (.findLink source.item) w).1 = w from rfl, hanswer]
    change Ends cfg sv i _ (makeIssue cfg source result) w
    rw [makeIssue]
    refine createIssue_attempt_bind ?_
    dsimp only
    refine createOrUpdateLink_bind fun id ↦ ?_
    refine ⟨_, _, _, rfl, rfl, written_of_issue hhash hnot ?_ _ _, rfl⟩
    exact fun hbody ↦ ne_empty_of_contains (contains_issueBody _ _ _) (Option.some.inj hbody)

/-- **One source.** Its link is written, with the number of an issue. -/
theorem syncOneToGithub_ends (hhash : cfg.Hashes) (source : Source) (result : SyncResult)
    (w : World) :
    Ends cfg sv i (fun r w' ↦ ∃ result' data repo', r = .ok result' ∧
      result'.updated = result.updated ∧ Written cfg w.db source data ∧
      w' = { w with
        db := w.db.put source.item (orElse (some source.syncKind) "comment") data
        repo := repo' }) (syncOneToGithub cfg source result) w := by
  by_cases hlinked : w.db.Linked source.item
  · obtain ⟨l, hfind, hnumbered⟩ := hlinked
    refine (linked_ends hfind hnumbered result).imp ?_
    rintro r w' ⟨result', rfl, -, hupdated, rfl⟩
    exact ⟨result', rewritten cfg source l, w.repo, rfl, hupdated,
      written_rewritten hhash hfind hnumbered, rfl⟩
  · exact unlinked_ends hhash hlinked result

/-! ## All sources -/

/-- The loop of `sync_figma_to_github`. -/
def syncSources (cfg : Config) (sources : List Source) (result : SyncResult) :
    Process SyncResult :=
  sources.foldlM (fun result source ↦ syncOneToGithub cfg source result) result

theorem syncSources_cons (cfg : Config) (source : Source) (sources : List Source)
    (result : SyncResult) :
    syncSources cfg (source :: sources) result
      = syncOneToGithub cfg source result >>= syncSources cfg sources := rfl

theorem State.Linked.congr {s' : State} (h : s'.find item = s.find item) :
    s'.Linked item ↔ s.Linked item := by
  rw [Linked, Linked, h]

/-- The items of a list of sources with distinct items. -/
theorem item_ne_of_nodup {sources : List Source}
    (h : ((source :: sources).map Source.item).Nodup) :
    (∀ s ∈ sources, s.item ≠ source.item) ∧ (sources.map Source.item).Nodup := by
  obtain ⟨hnotMem, hnodup⟩ := List.nodup_cons.mp h
  exact ⟨fun s hs heq ↦ hnotMem (heq ▸ List.mem_map_of_mem hs), hnodup⟩

/-- **The first direction** writes the link of every source. -/
theorem syncSources_ends (hhash : cfg.Hashes) {sources : List Source}
    (hnodup : (sources.map Source.item).Nodup) (hw : w.db.Keyed) (result : SyncResult) :
    Ends cfg sv i (fun r w' ↦ ∃ result', r = .ok result' ∧ result'.updated = result.updated ∧
      w'.file = w.file ∧ w'.db.Keyed ∧
      (∀ s ∈ sources, ∃ l, w'.db.find s.item = some l ∧ Written cfg w.db s l.data) ∧
      ∀ item ∉ sources.map Source.item, w'.db.find item = w.db.find item)
      (syncSources cfg sources result) w := by
  induction sources generalizing w result with
  | nil => exact ⟨result, rfl, rfl, rfl, hw, by simp, fun _ _ ↦ rfl⟩
  | cons source sources ih =>
    obtain ⟨hne, hnodup'⟩ := item_ne_of_nodup hnodup
    rw [syncSources_cons]
    refine (syncOneToGithub_ends hhash source result w).bind ?_ ?_
    · rintro result₁ w₁ ⟨_, data, repo', ⟨⟩, hupdated, hwritten, rfl⟩
      have hkeyed : (w.db.put source.item (orElse (some source.syncKind) "comment") data).Keyed :=
        hw.put
      refine (ih hnodup' hkeyed result₁).imp ?_
      rintro r w' ⟨result', rfl, hupdated', hfile, hkeyed', hwritten', hframe⟩
      refine ⟨result', rfl, hupdated'.trans hupdated, hfile, hkeyed', ?_, ?_⟩
      · intro s hs
        obtain rfl | hs := List.mem_cons.mp hs
        · obtain ⟨l, hl, rfl⟩ := State.find_put_self w.db s.item
            (orElse (some s.syncKind) "comment") data
          refine ⟨l, (hframe s.item fun hmem ↦ ?_).trans hl, hwritten⟩
          obtain ⟨s', hs', heq⟩ := List.mem_map.mp hmem
          exact hne s' hs' heq
        · obtain ⟨l, hl, hnumbered, hfigma, hgithub⟩ := hwritten' s hs
          exact ⟨l, hl, hnumbered, hfigma,
            hgithub.trans (State.Linked.congr (State.find_put_of_ne hw (hne s hs)))⟩
      · intro item hitem
        rw [List.map_cons, List.mem_cons, not_or] at hitem
        exact (hframe item hitem.2).trans (State.find_put_of_ne hw hitem.1)
    · rintro x w₁ ⟨result', data, repo', hx, -⟩
      cases hx

/-- The link of the source is in step with it. -/
def Settled (cfg : Config) (s : State) (source : Source) : Prop :=
  ∃ l, s.find source.item = some l ∧ l.numbered = true ∧
    l.data.lastFigmaHash = some (cfg.hashSource source) ∧ l.synced = l

/-- The link of the source has the hash of the stand-in. -/
def Marked (cfg : Config) (s : State) (source : Source) : Prop :=
  ∃ l, s.find source.item = some l ∧ l.data.lastGithubHash = some (cfg.hashIssue standIn)

/-- Into a link that is in step only the hash of the stand-in is written. -/
theorem rewritten_of_settled (hhash : cfg.Hashes) {l : Link}
    (hfigma : l.data.lastFigmaHash = some (cfg.hashSource source)) (hsynced : l.synced = l) :
    rewritten cfg source l
      = { l.data with lastGithubHash := some (cfg.hashIssue standIn) } := by
  have hstatus : l.data.status = "synced" := congrArg (·.data.status) hsynced.symm
  have hreason : l.data.conflictReason = none := congrArg (·.data.conflictReason) hsynced.symm
  have hconflict : (truthy l.data.lastFigmaHash &&
      l.data.lastFigmaHash ≠ some (cfg.hashSource source)) = false := by
    rw [hfigma]
    simp
  rw [rewritten]
  simp only [hconflict, Bool.false_eq_true, if_false, hhash.issueOfLink l]
  rw [← hfigma, ← hstatus, ← hreason]

/-- The columns that the second direction reads and writes are those of a row that was there. -/
def SameRows (s s' : State) : Prop :=
  ∀ r' ∈ s'.session, ∃ r ∈ s.session,
    r'.data = { r.data with lastGithubHash := r'.data.lastGithubHash }

theorem SameRows.trans {s s' s'' : State} (h : SameRows s s') (h' : SameRows s' s'') :
    SameRows s s'' := by
  intro r'' hr''
  obtain ⟨r', hr', heq'⟩ := h' r'' hr''
  obtain ⟨r, hr, heq⟩ := h r' hr'
  exact ⟨r, hr, by rw [heq', heq]⟩

/-- **The first direction again.** No issue is created; the links get the hash of the stand-in, and
stay as they are if they have it. -/
theorem syncSources_again (hhash : cfg.Hashes) {sources : List Source}
    (hnodup : (sources.map Source.item).Nodup) (hw : w.db.Keyed)
    (hsettled : ∀ s ∈ sources, Settled cfg w.db s) (result : SyncResult) :
    Ends cfg sv i (fun r w' ↦ ∃ result', r = .ok result' ∧ result'.created = result.created ∧
      result'.updated = result.updated ∧ w'.file = w.file ∧ w'.db.Keyed ∧
      SameRows w.db w'.db ∧ (∀ s ∈ sources, Marked cfg w'.db s) ∧
      (∀ item ∉ sources.map Source.item, w'.db.find item = w.db.find item) ∧
      ((∀ s ∈ sources, Marked cfg w.db s) → w'.db = w.db))
      (syncSources cfg sources result) w := by
  induction sources generalizing w result with
  | nil =>
    exact ⟨result, rfl, rfl, rfl, rfl, hw, fun r hr ↦ ⟨r, hr, rfl⟩, by simp, fun _ _ ↦ rfl,
      fun _ ↦ rfl⟩
  | cons source sources ih =>
    obtain ⟨hne, hnodup'⟩ := item_ne_of_nodup hnodup
    obtain ⟨l, hl, hnumbered, hfigma, hsynced⟩ := hsettled source List.mem_cons_self
    rw [syncSources_cons]
    refine (linked_ends hl hnumbered result).bind ?_ ?_
    · rintro result₁ w₁ ⟨_, ⟨⟩, hcreated, hupdated, rfl⟩
      rw [rewritten_of_settled hhash hfigma hsynced]
      generalize hdata : { l.data with lastGithubHash := some (cfg.hashIssue standIn) } = data
      generalize orElse (some source.syncKind) "comment" = syncKind
      have hframe₁ : ∀ s ∈ sources,
          (w.db.put source.item syncKind data).find s.item = w.db.find s.item :=
        fun s hs ↦ State.find_put_of_ne hw (hne s hs)
      have hkeyed : (w.db.put source.item syncKind data).Keyed := hw.put
      refine (ih (w := { w with db := w.db.put source.item syncKind data }) hnodup' hkeyed
        (fun s hs ↦ ?_) result₁).imp ?_
      · rw [Settled, hframe₁ s hs]
        exact hsettled s (List.mem_cons_of_mem _ hs)
      rintro r w' ⟨result', rfl, hcreated', hupdated', hfile, hkeyed', hrows, hmarked, hframe,
        hsame⟩
      refine ⟨result', rfl, hcreated'.trans hcreated, hupdated'.trans hupdated, hfile, hkeyed',
        SameRows.trans ?_ hrows, ?_, ?_, ?_⟩
      · intro r' hr'
        obtain hr | hr := State.mem_put hr'
        · exact ⟨r', hr, rfl⟩
        · exact ⟨l, State.mem_of_find hl, by rw [hr, ← hdata]⟩
      · intro s hs
        obtain rfl | hs := List.mem_cons.mp hs
        · obtain ⟨l', hl', hl'data⟩ := State.find_put_self w.db s.item syncKind data
          refine ⟨l', (hframe s.item fun hmem ↦ ?_).trans hl', by rw [hl'data, ← hdata]⟩
          obtain ⟨s', hs', heq⟩ := List.mem_map.mp hmem
          exact hne s' hs' heq
        · exact hmarked s hs
      · intro item hitem
        rw [List.map_cons, List.mem_cons, not_or] at hitem
        exact (hframe item hitem.2).trans (State.find_put_of_ne hw hitem.1)
      · intro hall
        obtain ⟨l', hl', hmark⟩ := hall source List.mem_cons_self
        rw [hl] at hl'
        cases hl'
        have hput : w.db.put source.item syncKind data = w.db := by
          refine State.put_self hw hl ?_
          rw [← hdata, ← hmark]
        rw [hput] at hsame
        exact hsame fun s hs ↦ hall s (List.mem_cons_of_mem _ hs)
    · rintro x w₁ ⟨result', hx, -⟩
      cases hx

/-! ## The sources of a run -/

/-- The sources of the comments. -/
def commentSources (file : FigmaFile) (request : Request) : List Source :=
  if request.includeComments then file.comments.filterMap commentSource else []

/-- The sources of the frames. -/
def frameSources (sv : Services) (request : Request) : List Source :=
  if request.includeFrames then
    match request.nodeIds with
    | [] => []
    | nodeIds => (sv.nodes nodeIds).map fun node ↦ frameSource node.1 node.2
  else []

/-- The sources that a run goes through. -/
def sourcesOf (sv : Services) (file : FigmaFile) (request : Request) : List Source :=
  (commentSources file request ++ frameSources sv request).map fun source ↦
    if request.includeDevResources then source else { source with devResources := none }

/-- The links are committed. -/
def State.commit (s : State) : State := { s with links := s.session }

theorem commentSources_bind {request : Request} {f : List Source → Process α}
    (h : Ends cfg sv i Q (f (commentSources w.file request)) w) :
    Ends cfg sv i Q
      ((if request.includeComments then collectCommentSources else pure []) >>= f) w := by
  rw [commentSources] at h
  by_cases hinclude : request.includeComments = true
  · rw [if_pos hinclude] at h ⊢
    rw [collectCommentSources, Program.bind_assoc]
    exact run_bind h
  · rw [if_neg hinclude] at h ⊢
    exact h

theorem frameSources_bind {request : Request} {f : List Source → Process α}
    (h : Ends cfg sv i Q (f (frameSources sv request)) w) :
    Ends cfg sv i Q
      ((if request.includeFrames then collectFrameSources request.nodeIds else pure []) >>= f)
      w := by
  rw [frameSources] at h
  by_cases hinclude : request.includeFrames = true
  · rw [if_pos hinclude] at h ⊢
    rcases hids : request.nodeIds with _ | ⟨nodeId, nodeIds⟩
    · rw [hids] at h
      exact h
    · rw [hids] at h
      rw [collectFrameSources, Program.bind_assoc]
      · exact run_bind h
      · exact List.cons_ne_nil _ _
  · rw [if_neg hinclude] at h ⊢
    exact h

theorem syncFigmaToGithub_ends {Q : Except Error SyncResult → World → Prop} {request : Request}
    (h : Ends cfg sv i (fun r w' ↦ ∃ result, r = .ok result ∧
        Q (.ok result) { w' with db := w'.db.commit })
      (syncSources cfg (sourcesOf sv w.file request) {}) w) :
    Ends cfg sv i Q (syncFigmaToGithub cfg request) w := by
  rw [syncFigmaToGithub]
  refine commentSources_bind (frameSources_bind ?_)
  refine h.bind ?_ ?_
  · rintro result w' ⟨_, ⟨⟩, hQ⟩
    exact run_bind hQ
  · rintro x w' ⟨result, hx, -⟩
    cases hx

/-- The item of a comment has its id. -/
theorem commentId_of_commentSource {comment : Comment} (h : commentSource comment = some source) :
    source.item.commentId = comment.id ∧ comment.id.isSome = true := by
  rw [commentSource] at h
  split at h
  · cases h
  next hskip =>
    cases h
    refine ⟨rfl, ?_⟩
    cases hid : comment.id with
    | none => simp [hid, truthy] at hskip
    | some id => rfl

theorem nodup_items_of_comments {comments : List Comment}
    (h : (comments.filterMap Comment.id).Nodup) :
    ((comments.filterMap commentSource).map Source.item).Nodup := by
  induction comments with
  | nil => exact List.nodup_nil
  | cons comment comments ih =>
    have htail : (comments.filterMap Comment.id).Nodup :=
      h.sublist ((List.sublist_cons_self comment comments).filterMap _)
    cases hsource : commentSource comment with
    | none =>
      rw [List.filterMap_cons_none hsource]
      exact ih htail
    | some source =>
      obtain ⟨hitem, hid⟩ := commentId_of_commentSource hsource
      obtain ⟨id, hid⟩ := Option.isSome_iff_exists.mp hid
      rw [List.filterMap_cons_some hsource, List.map_cons, List.nodup_cons]
      refine ⟨fun hmem ↦ ?_, ih htail⟩
      obtain ⟨source', hsource', heq⟩ := List.mem_map.mp hmem
      obtain ⟨comment', hcomment', hsource'⟩ := List.mem_filterMap.mp hsource'
      obtain ⟨hitem', -⟩ := commentId_of_commentSource hsource'
      rw [List.filterMap_cons_some hid, List.nodup_cons] at h
      refine h.1 (List.mem_filterMap.mpr ⟨comment', hcomment', ?_⟩)
      rw [← hitem', heq, hitem, hid]

/-- No two sources are of one item. -/
theorem nodup_items_sourcesOf (sv : Services) (file : FigmaFile) (request : Request) :
    ((sourcesOf sv file request).map Source.item).Nodup := by
  have hitems : (sourcesOf sv file request).map Source.item
      = (commentSources file request).map Source.item
        ++ (frameSources sv request).map Source.item := by
    rw [sourcesOf, List.map_map, ← List.map_append]
    refine List.map_congr_left fun source _ ↦ ?_
    rw [Function.comp]
    split <;> rfl
  rw [hitems, List.nodup_append]
  refine ⟨?_, ?_, ?_⟩
  · rw [commentSources]
    split
    · exact nodup_items_of_comments file.ids_nodup
    · exact List.nodup_nil
  · rw [frameSources]
    split
    · split
      · exact List.nodup_nil
      · rw [List.map_map]
        refine List.Nodup.of_map (fun item ↦ item.nodeId) ?_
        rw [List.map_map]
        have hkeys : ∀ nodes : List (String × Option Document),
            nodes.map ((fun item ↦ item.nodeId) ∘
              Source.item ∘ fun node ↦ frameSource node.1 node.2)
              = (nodes.map Prod.fst).map some := by
          intro nodes
          rw [List.map_map]
          rfl
        rw [hkeys]
        exact (sv.nodes_nodup _).map (Option.some_injective _)
    · exact List.nodup_nil
  · -- the item of a comment has an id, and that of a frame has none
    intro item hitem item' hitem' heq
    obtain ⟨source, hsource, rfl⟩ := List.mem_map.mp hitem
    obtain ⟨source', hsource', rfl⟩ := List.mem_map.mp hitem'
    have hsome : source.item.commentId.isSome = true := by
      rw [commentSources] at hsource
      split at hsource
      · obtain ⟨comment, -, hsource⟩ := List.mem_filterMap.mp hsource
        obtain ⟨hid, hsome⟩ := commentId_of_commentSource hsource
        rwa [hid]
      · exact absurd hsource List.not_mem_nil
    have hnone : source'.item.commentId = none := by
      rw [frameSources] at hsource'
      split at hsource'
      · split at hsource'
        · exact absurd hsource' List.not_mem_nil
        · obtain ⟨node, -, rfl⟩ := List.mem_map.mp hsource'
          rfl
      · exact absurd hsource' List.not_mem_nil
    rw [heq, hnone] at hsome
    cases hsome

end FigmaGithub

end ReqSys
