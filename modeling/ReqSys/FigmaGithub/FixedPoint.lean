import Mathlib
import ReqSys.FigmaGithub.ToGithub

/-!
# A second run

After a run in which no call fails, a second one finds every item linked and every comment written:
it creates no issue and no comment. The comments that the first run has written begin with the
prefix of ReqSys, so that they are no sources.

The links do not all stay, though. The second run knows the issue of an item from its link, and the
hash that it writes is that of a stand-in without text; the hash that the first run has taken of an
issue which it found or created is lost. So the links stay exactly when the first run has not found
or created an issue, that is when every item was linked before it.
-/

namespace ReqSys

namespace FigmaGithub

open PyText

variable {cfg : Config} {sv : Services} {w : World} {s : State} {i : ℕ} {α : Type}
  {Q : Except Error α → World → Prop} {link : Link}

/-! ## Calls that are answered -/

/-- A program of both directions, with every call answered. -/
abbrev Syncs (cfg : Config) (sv : Services) (i : ℕ) (Q : Except Error α → World → Prop)
    (p : Sync α) (w : World) : Prop :=
  p.EndsIn (world cfg sv) i Answered Eq Q w

theorem ask_bind {op : Call} {f : op.Ans → Sync α}
    (h : Syncs cfg sv i Q (f (performCall cfg sv op w).2) (performCall cfg sv op w).1) :
    Syncs cfg sv i Q (ask op >>= f) w := by
  refine .perform_bind ?_
  rintro _ e rfl rfl
  exact ⟨_, rfl, h⟩

theorem ask_attempt_bind {op : Call} {f : Except Error op.Ans → Sync α}
    (h : Syncs cfg sv i Q (f (.ok (performCall cfg sv op w).2)) (performCall cfg sv op w).1) :
    Syncs cfg sv i Q ((ask op).attempt >>= f) w := by
  rintro _ e rfl rfl
  exact h

theorem lift_ends {p : Process α} (h : Ends cfg sv i Q p w) : Syncs cfg sv i Q (lift p) w := by
  induction p generalizing w with
  | ret a => exact h
  | raise x => exact h
  | call op k ih =>
    rintro w' e hw he
    exact ih _ (h w' e hw he)

/-! ## Comments of ReqSys -/

/-- They begin with the prefix. -/
theorem startsWith_backMessage (number : ℕ) (url : Option String) :
    startsWith reqsysFigmaBackPrefix (backMessage number url) = true := by
  have hfront : reqsysFigmaBackPrefix.toList = '[' :: "ReqSys Sync] ".toList := by decide
  have hnext : "GitHub #".toList = 'G' :: "itHub #".toList := by decide
  have htext : reqsysFigmaBackPrefix ++ "GitHub #" ++ toString number ++ " atualizado: "
      ++ orElse url "" = String.ofList ('[' :: "ReqSys Sync] ".toList ++ [] ++ 'G' ::
        ("itHub #".toList ++ (toString number).toList ++ " atualizado: ".toList
          ++ (orElse url "").toList)) := by
    rw [← String.toList_inj, String.toList_ofList]
    simp only [String.toList_append, hfront, hnext, List.append_assoc, List.cons_append,
      List.append_nil]
  rw [backMessage, htext, startsWith, List.isPrefixOf_iff_prefix]
  obtain ⟨r, hr⟩ := toList_strip_append (l := "ReqSys Sync] ".toList) (m := []) (c := '[')
    (d := 'G') (r := "itHub #".toList ++ (toString number).toList ++ " atualizado: ".toList
      ++ (orElse url "").toList) (by decide) (by decide)
  rw [hr, hfront, List.append_nil]
  exact List.prefix_append _ _

theorem strip_backMessage (number : ℕ) (url : Option String) :
    strip (backMessage number url) = backMessage number url := strip_strip _

/-- The comment that is posted, and the one that is remembered. -/
structure IsBack (message : String) (comment : Comment) : Prop where
  message_eq : comment.message = some message
  ne_empty : message ≠ ""

theorem IsBack.commentText {message : String} {comment : Comment} (h : IsBack message comment) :
    commentText comment = message := by
  rw [FigmaGithub.commentText, orElse, h.message_eq,
    if_pos (by simpa [truthy] using h.ne_empty)]
  rfl

theorem backMessage_ne_empty (number : ℕ) (url : Option String) :
    backMessage number url ≠ "" := by
  intro hempty
  have hstart := startsWith_backMessage number url
  rw [hempty] at hstart
  exact absurd hstart (by decide)

/-- **No echo.** A comment of ReqSys is no source. -/
theorem commentSource_of_back {number : ℕ} {url : Option String} {comment : Comment}
    (h : IsBack (backMessage number url) comment) : commentSource comment = none := by
  have htext := h.commentText
  rw [FigmaGithub.commentText] at htext
  rw [commentSource]
  rw [htext, startsWith_backMessage, Bool.or_true, Bool.true_or, if_pos rfl]

/-- The comments of a file, with some that are no sources. -/
def Grown (file file' : FigmaFile) : Prop :=
  ∃ posted, file'.comments = file.comments ++ posted ∧ ∀ c ∈ posted, commentSource c = none

theorem Grown.refl (file : FigmaFile) : Grown file file :=
  ⟨[], (List.append_nil _).symm, List.forall_mem_nil _⟩

theorem Grown.trans {file file' file'' : FigmaFile} (h : Grown file file')
    (h' : Grown file' file'') : Grown file file'' := by
  obtain ⟨posted, hposted, hnone⟩ := h
  obtain ⟨posted', hposted', hnone'⟩ := h'
  refine ⟨posted ++ posted', by rw [hposted', hposted, List.append_assoc], fun c hc ↦ ?_⟩
  exact (List.mem_append.mp hc).elim (hnone c) (hnone' c)

theorem Grown.sourcesOf {file file' : FigmaFile} (h : Grown file file') (request : Request) :
    sourcesOf sv file' request = sourcesOf sv file request := by
  obtain ⟨posted, hposted, hnone⟩ := h
  have hsources : commentSources file' request = commentSources file request := by
    rw [commentSources, commentSources, hposted, List.filterMap_append,
      List.filterMap_eq_nil_iff.mpr hnone, List.append_nil]
  rw [FigmaGithub.sourcesOf, FigmaGithub.sourcesOf, hsources]

/-- The issue of a link is told in the file. -/
def HasComment (file : FigmaFile) (link : Link) : Prop :=
  ∀ number, link.data.githubIssueNumber.filter (· ≠ 0) = some number →
    ∃ c ∈ file.comments, strip (commentText c) = backMessage number link.data.githubIssueUrl

theorem HasComment.mono {file file' : FigmaFile} (h : HasComment file link)
    (hgrown : Grown file file') : HasComment file' link := by
  obtain ⟨posted, hposted, -⟩ := hgrown
  intro number hnumber
  obtain ⟨c, hc, htext⟩ := h number hnumber
  exact ⟨c, by rw [hposted]; exact List.mem_append_left _ hc, htext⟩

/-! ## One link -/

/-- The comments that are known have the texts of those in the file. -/
def Knows (comments : Option (List Comment)) (file : FigmaFile) : Prop :=
  ∀ cs, comments = some cs → cs.map commentText = file.comments.map commentText

theorem Knows.some {comments : List Comment} {file : FigmaFile}
    (h : comments.map commentText = file.comments.map commentText) :
    Knows (.some comments) file := by
  intro cs hcs
  rw [← Option.some.inj hcs]
  exact h

theorem commentsByFile_bind {comments : Option (List Comment)} (hknows : Knows comments w.file)
    {f : Except Error (List Comment) → Sync α}
    (h : ∀ cs : List Comment, cs.map commentText = w.file.comments.map commentText →
      Syncs cfg sv i Q (f (.ok cs)) w) :
    Syncs cfg sv i Q (commentsByFile comments >>= f) w := by
  cases comments with
  | none => exact ask_attempt_bind (h _ rfl)
  | some cs => exact h cs (hknows cs rfl)

/-- A link after its turn. -/
def State.sync (s : State) (link : Link) : State :=
  if link.numbered then
    { s with session := Table.update Link.id link.id Link.synced s.session }
  else s

theorem numbered_of_filter {number : ℕ}
    (h : link.data.githubIssueNumber.filter (· ≠ 0) = some number) : link.numbered = true := by
  rw [Option.filter_eq_some_iff] at h
  rw [Link.numbered, h.1]
  exact h.2

theorem not_numbered_of_filter (h : link.data.githubIssueNumber.filter (· ≠ 0) = none) :
    link.numbered = false := by
  rw [Link.numbered]
  cases hnumber : link.data.githubIssueNumber with
  | none => rfl
  | some number =>
    rw [hnumber, Option.filter_eq_none_iff] at h
    exact eq_false_of_ne_true (h number rfl)

/-- What the turn of a link does. -/
structure Turn (w w' : World) (acc acc' : Report × Option (List Comment)) (link : Link) :
    Prop where
  created : acc'.1.created = acc.1.created
  knows : Knows acc'.2 w'.file
  grown : Grown w.file w'.file
  told : HasComment w'.file link
  quiet : HasComment w.file link → acc'.1.updated = acc.1.updated ∧ w'.file = w.file
  db : w'.db = w.db.sync link

theorem any_text_iff {comments comments' : List Comment}
    (htexts : comments.map commentText = comments'.map commentText) (message : String) :
    (comments.any fun c ↦ strip (commentText c) = message) = true ↔
      ∃ c ∈ comments', strip (commentText c) = message := by
  have hmap : ∀ cs : List Comment, (cs.any fun c ↦ decide (strip (commentText c) = message))
      = (cs.map commentText).any fun text ↦ decide (strip text = message) := by
    intro cs
    rw [List.any_map]
    rfl
  rw [hmap, htexts, ← hmap, List.any_eq_true]
  simp only [decide_eq_true_eq]

theorem writeBack_ends {number : ℕ} {comments : List Comment} (result : Report)
    (hnumber : link.data.githubIssueNumber.filter (· ≠ 0) = some number)
    (htexts : comments.map commentText = w.file.comments.map commentText)
    (acc : Report × Option (List Comment)) (hacc : acc.1 = result) :
    Syncs cfg sv i (fun r w' ↦ ∃ acc', r = .ok acc' ∧ Turn w w' acc acc' link)
      (writeBack link number comments result) w := by
  have hdb : w.db.sync link
      = { w.db with session := Table.update Link.id link.id Link.synced w.db.session } :=
    if_pos (numbered_of_filter hnumber)
  have hany := any_text_iff htexts (backMessage number link.data.githubIssueUrl)
  rw [writeBack]
  split
  next hthere =>
    refine ask_bind ?_
    refine ⟨_, rfl, ?_, Knows.some htexts, Grown.refl _, ?_, fun _ ↦ ⟨?_, rfl⟩, hdb.symm⟩
    · rw [hacc]
      rfl
    · intro number' hnumber'
      rw [hnumber] at hnumber'
      cases hnumber'
      exact hany.mp hthere
    · rw [hacc]
      rfl
  next hnew =>
    refine ask_attempt_bind ?_
    refine ask_bind ?_
    have hback : ∀ comment : Comment,
        comment.message = some (backMessage number link.data.githubIssueUrl) →
          IsBack (backMessage number link.data.githubIssueUrl) comment := fun comment hmessage ↦
      ⟨hmessage, backMessage_ne_empty _ _⟩
    refine ⟨_, rfl, ?_, Knows.some ?_, ?_, ?_, fun htold ↦ ?_, hdb.symm⟩
    · rw [hacc]
      rfl
    · change List.map _ _ = List.map _ (w.file.comments ++ [_])
      rw [List.map_append, List.map_append, htexts, List.map_singleton, List.map_singleton,
        (hback _ rfl).commentText, (hback _ rfl).commentText]
    · refine ⟨_, rfl, fun c hc ↦ ?_⟩
      rw [List.mem_singleton.mp hc]
      exact commentSource_of_back (hback _ rfl)
    · intro number' hnumber'
      rw [hnumber] at hnumber'
      cases hnumber'
      refine ⟨_, List.mem_append_right _ (List.mem_singleton.mpr rfl), ?_⟩
      rw [(hback _ rfl).commentText, strip_backMessage]
    · exact absurd (hany.mpr (htold number hnumber)) hnew

theorem syncOneToFigma_ends (link : Link) {acc : Report × Option (List Comment)}
    (hknows : Knows acc.2 w.file) :
    Syncs cfg sv i (fun r w' ↦ ∃ acc', r = .ok acc' ∧ Turn w w' acc acc' link)
      (syncOneToFigma acc link) w := by
  rw [syncOneToFigma]
  split
  next hnone =>
    have hdb : w.db.sync link = w.db := if_neg (by rw [not_numbered_of_filter hnone]; decide)
    refine ⟨_, rfl, rfl, hknows, Grown.refl _, fun number hnumber ↦ ?_, fun _ ↦ ⟨rfl, rfl⟩,
      hdb.symm⟩
    rw [hnone] at hnumber
    cases hnumber
  next number hnumber =>
    exact commentsByFile_bind hknows fun cs hcs ↦ writeBack_ends acc.1 hnumber hcs acc rfl

/-! ## All links -/

/-- What the turns of some links do. -/
structure Turns (w w' : World) (acc acc' : Report × Option (List Comment)) (links : List Link) :
    Prop where
  created : acc'.1.created = acc.1.created
  grown : Grown w.file w'.file
  told : ∀ l ∈ links, HasComment w'.file l
  quiet : (∀ l ∈ links, HasComment w.file l) →
    acc'.1.updated = acc.1.updated ∧ w'.file = w.file
  db : w'.db = links.foldl State.sync w.db

theorem syncLinks_ends (links : List Link) {acc : Report × Option (List Comment)}
    (hknows : Knows acc.2 w.file) :
    Syncs cfg sv i (fun r w' ↦ ∃ acc', r = .ok acc' ∧ Turns w w' acc acc' links)
      (links.foldlM syncOneToFigma acc) w := by
  induction links generalizing w acc with
  | nil =>
    exact ⟨acc, rfl, rfl, Grown.refl _, List.forall_mem_nil _, fun _ ↦ ⟨rfl, rfl⟩, rfl⟩
  | cons link links ih =>
    rw [List.foldlM_cons]
    refine (syncOneToFigma_ends link hknows).bind ?_ ?_
    · rintro acc₁ w₁ ⟨_, ⟨⟩, hturn⟩
      refine (ih hturn.knows).imp ?_
      rintro r w' ⟨acc', rfl, hturns⟩
      refine ⟨acc', rfl, hturns.created.trans hturn.created, hturn.grown.trans hturns.grown,
        List.forall_mem_cons.mpr ⟨hturn.told.mono hturns.grown, hturns.told⟩, fun htold ↦ ?_, ?_⟩
      · obtain ⟨hlink, hlinks⟩ := List.forall_mem_cons.mp htold
        obtain ⟨hupdated, hfile⟩ := hturn.quiet hlink
        rw [← hfile] at hlinks
        obtain ⟨hupdated', hfile'⟩ := hturns.quiet hlinks
        exact ⟨hupdated'.trans hupdated, hfile'.trans hfile⟩
      · rw [List.foldl_cons, hturns.db, hturn.db]
    · rintro x w₁ ⟨acc', hx, -⟩
      cases hx

/-- The links after all turns: those with an issue are in step. -/
def Link.settle (link : Link) : Link := if link.numbered then link.synced else link

/-- The turns of links, row by row. -/
theorem session_foldl_sync (links : List Link) (s : State) :
    (links.foldl State.sync s).session = s.session.map fun r ↦
      if ∃ l ∈ links, l.numbered = true ∧ l.id = r.id then r.synced else r := by
  induction links generalizing s with
  | nil => simp
  | cons link links ih =>
    rw [List.foldl_cons, ih, State.sync]
    split
    next hnumbered =>
      dsimp only
      rw [Table.update, List.map_map]
      refine List.map_congr_left fun r _ ↦ ?_
      simp only [Function.comp, List.exists_mem_cons_iff]
      by_cases hid : r.id = link.id
      · have hsynced : r.synced.synced = r.synced := rfl
        rw [if_pos hid, if_pos (Or.inl ⟨hnumbered, hid.symm⟩)]
        split_ifs
        · exact hsynced
        · rfl
      · rw [if_neg hid]
        have hcond : (link.numbered = true ∧ link.id = r.id ∨
            ∃ l ∈ links, l.numbered = true ∧ l.id = r.id) ↔
              ∃ l ∈ links, l.numbered = true ∧ l.id = r.id :=
          or_iff_right fun h ↦ hid h.2.symm
        simp only [hcond]
    next hnumbered =>
      refine List.map_congr_left fun r _ ↦ ?_
      have hcond : (∃ l ∈ link :: links, l.numbered = true ∧ l.id = r.id) ↔
          ∃ l ∈ links, l.numbered = true ∧ l.id = r.id := by
        rw [List.exists_mem_cons_iff]
        exact or_iff_right fun h ↦ hnumbered h.1
      simp only [hcond]

@[simp] theorem State.links_sync (s : State) (link : Link) : (s.sync link).links = s.links := by
  rw [State.sync]
  split <;> rfl

@[simp] theorem State.nextId_sync (s : State) (link : Link) : (s.sync link).nextId = s.nextId := by
  rw [State.sync]
  split <;> rfl

theorem nextId_foldl_sync (links : List Link) (s : State) :
    (links.foldl State.sync s).nextId = s.nextId := by
  induction links generalizing s with
  | nil => rfl
  | cons link links ih => rw [List.foldl_cons, ih, State.nextId_sync]

/-- The turns of all links. -/
theorem session_foldl_sync_self (hs : s.Keyed) :
    (s.session.foldl State.sync s).session = s.session.map Link.settle := by
  rw [session_foldl_sync]
  refine List.map_congr_left fun r hr ↦ ?_
  have hcond : (∃ l ∈ s.session, l.numbered = true ∧ l.id = r.id) ↔ r.numbered = true := by
    constructor
    · rintro ⟨l, hl, hnumbered, hid⟩
      rwa [hs.nodup.eq_of_key_eq hl hr hid] at hnumbered
    · exact fun hnumbered ↦ ⟨r, hr, hnumbered, rfl⟩
  rw [Link.settle]
  simp only [hcond]

/-- **The second direction** tells every link in the file and puts it in step. When all of them are
told already, it writes no comment. -/
theorem syncGithubToFigma_ends (hs : w.db.Keyed) :
    Syncs cfg sv i (fun r w' ↦ ∃ result, r = .ok result ∧ result.created = 0 ∧
      Grown w.file w'.file ∧ (∀ l ∈ w.db.session, HasComment w'.file l) ∧
      ((∀ l ∈ w.db.session, HasComment w.file l) → result.updated = 0 ∧ w'.file = w.file) ∧
      w'.db.session = w.db.session.map Link.settle ∧ w'.db.links = w'.db.session ∧
      w'.db.nextId = w.db.nextId) syncGithubToFigma w := by
  rw [syncGithubToFigma]
  refine ask_bind ?_
  have hnone : Knows none w.file := by
    rintro cs ⟨⟩
  have hlinks : Syncs cfg sv i (fun r w' ↦ ∃ acc', r = .ok acc' ∧
      Turns w w' ({}, none) acc' w.db.session)
      (w.db.session.foldlM syncOneToFigma ({}, none)) w := syncLinks_ends _ hnone
  refine hlinks.bind ?_ ?_
  · rintro acc w' ⟨_, ⟨⟩, hturns⟩
    refine ask_bind ?_
    have hsession : w'.db.session = w.db.session.map Link.settle := by
      rw [hturns.db]
      exact session_foldl_sync_self hs
    have hnext : w'.db.nextId = w.db.nextId := by
      rw [hturns.db]
      exact nextId_foldl_sync _ _
    exact ⟨acc.1, rfl, hturns.created, hturns.grown, hturns.told, hturns.quiet, hsession, rfl,
      hnext⟩
  · rintro x w' ⟨acc, hx, -⟩
    cases hx

/-! ## A run of both directions -/

@[simp] theorem Link.item_settle (link : Link) : link.settle.item = link.item := by
  rw [settle]
  split <;> rfl

@[simp] theorem Link.id_settle (link : Link) : link.settle.id = link.id := by
  rw [settle]
  split <;> rfl

@[simp] theorem Link.numbered_settle (link : Link) : link.settle.numbered = link.numbered := by
  rw [settle]
  split <;> rfl

theorem Link.data_settle (link : Link) :
    link.settle.data.githubIssueNumber = link.data.githubIssueNumber ∧
      link.settle.data.githubIssueUrl = link.data.githubIssueUrl ∧
      link.settle.data.lastFigmaHash = link.data.lastFigmaHash ∧
      link.settle.data.lastGithubHash = link.data.lastGithubHash := by
  rw [settle]
  split <;> exact ⟨rfl, rfl, rfl, rfl⟩

@[simp] theorem Link.settle_settle (link : Link) : link.settle.settle = link.settle := by
  by_cases hnumbered : link.numbered = true
  · rw [settle, numbered_settle, if_pos hnumbered, settle, if_pos hnumbered]
    rfl
  · rw [settle, numbered_settle, if_neg hnumbered]

theorem settle_eq_iff : link.settle = link ↔
    (link.numbered = true → link.data.status = "synced" ∧ link.data.conflictReason = none) := by
  by_cases hnumbered : link.numbered = true
  · rw [Link.settle, if_pos hnumbered]
    constructor
    · exact fun heq _ ↦ ⟨congrArg (·.data.status) heq.symm,
        congrArg (·.data.conflictReason) heq.symm⟩
    · intro h
      obtain ⟨hstatus, hreason⟩ := h hnumbered
      rw [Link.synced, ← hstatus, ← hreason]
  · rw [Link.settle, if_neg hnumbered]
    exact iff_of_true rfl fun h ↦ absurd h hnumbered

/-- A row that differs in the hash of the issue only is in step too. -/
theorem settle_of_data {l l' : Link}
    (hdata : l'.data = { l.data with lastGithubHash := l'.data.lastGithubHash })
    (hrow : l.settle = l) : l'.settle = l' := by
  rw [settle_eq_iff] at hrow ⊢
  rw [Link.numbered] at hrow ⊢
  rw [hdata]
  exact hrow

theorem HasComment.settle {file : FigmaFile} (h : HasComment file link) :
    HasComment file link.settle := by
  obtain ⟨hnumber, hurl, -⟩ := link.data_settle
  rw [HasComment, hnumber, hurl]
  exact h

/-- The state after a run in which no call has failed. -/
structure InStep (cfg : Config) (sv : Services) (request : Request) (w w₁ : World) : Prop where
  keyed : w₁.db.Keyed
  committed : w₁.db.links = w₁.db.session
  sources : sourcesOf sv w₁.file request = sourcesOf sv w.file request
  settled : ∀ s ∈ sourcesOf sv w.file request, Settled cfg w₁.db s
  /-- A link has the hash of the stand-in when it had an issue before the run. -/
  marked : ∀ s ∈ sourcesOf sv w.file request, Marked cfg w₁.db s ↔ w.db.Linked s.item
  rows : ∀ l ∈ w₁.db.session, l.settle = l
  told : ∀ l ∈ w₁.db.session, HasComment w₁.file l

/-- The links are found as they were, and in step. -/
theorem find_settle {s' : State} (hsession : s'.session = s.session.map Link.settle)
    (item : Item) : s'.find item = (s.find item).map Link.settle := by
  rw [State.find, State.find, hsession]
  exact find?_map_of_item Link.item_settle _ _

theorem keyed_settle {s' : State} (hsession : s'.session = s.session.map Link.settle)
    (hnext : s'.nextId = s.nextId) (hs : s.Keyed) : s'.Keyed := by
  refine ⟨?_, fun l hl ↦ ?_⟩
  · have hids : (s.session.map Link.settle).map Link.id = s.session.map Link.id := by
      rw [List.map_map]
      exact List.map_congr_left fun l _ ↦ l.id_settle
    rw [Table.Keyed, hsession, hids]
    exact hs.nodup
  · rw [hsession] at hl
    obtain ⟨r, hr, rfl⟩ := List.mem_map.mp hl
    rw [hnext, Link.id_settle]
    exact hs.lt r hr

/-- What the first run leaves. -/
theorem inStep_of_written {w' w₁ : World} {request : Request} (hfile : w'.file = w.file)
    (hwritten : ∀ s ∈ sourcesOf sv w.file request,
      ∃ l, w'.db.find s.item = some l ∧ Written cfg w.db s l.data)
    (hkeyed : w'.db.Keyed) (hgrown : Grown w'.file w₁.file)
    (htold : ∀ l ∈ w'.db.session, HasComment w₁.file l)
    (hsession : w₁.db.session = w'.db.session.map Link.settle)
    (hlinks : w₁.db.links = w₁.db.session) (hnext : w₁.db.nextId = w'.db.nextId) :
    InStep cfg sv request w w₁ := by
  have hfound : ∀ s ∈ sourcesOf sv w.file request, ∃ l : Link,
      w₁.db.find s.item = some l.settle ∧ Written cfg w.db s l.data := by
    intro s hs
    obtain ⟨l, hl, hl'⟩ := hwritten s hs
    exact ⟨l, by rw [find_settle hsession, hl]; rfl, hl'⟩
  refine ⟨keyed_settle hsession hnext hkeyed, hlinks, ?_, fun s hs ↦ ?_, fun s hs ↦ ?_, ?_, ?_⟩
  · rw [hgrown.sourcesOf, hfile]
  · obtain ⟨l, hl, hnumbered, hfigma, -⟩ := hfound s hs
    obtain ⟨-, -, hsame, -⟩ := l.data_settle
    refine ⟨l.settle, hl, ?_, hsame.trans hfigma, ?_⟩
    · rw [Link.numbered_settle]
      exact hnumbered
    · rw [Link.settle, if_pos (show l.numbered = true from hnumbered)]
      rfl
  · obtain ⟨l, hl, hl'⟩ := hfound s hs
    obtain ⟨-, -, -, hsame⟩ := l.data_settle
    rw [← hl'.githubHash, Marked, hl]
    constructor
    · rintro ⟨l', hl', hmark⟩
      rw [← Option.some.inj hl', hsame] at hmark
      exact hmark
    · exact fun hmark ↦ ⟨l.settle, rfl, hsame.trans hmark⟩
  · intro l hl
    rw [hsession] at hl
    obtain ⟨l, -, rfl⟩ := List.mem_map.mp hl
    exact l.settle_settle
  · intro l hl
    rw [hsession] at hl
    obtain ⟨r, hr, rfl⟩ := List.mem_map.mp hl
    exact (htold r hr).settle

/-- **The first run.** -/
theorem first_run (hhash : cfg.Hashes) (hw : w.db.Keyed) (request : Request) :
    Syncs cfg sv i (fun r w₁ ↦ (∃ report, r = .ok report) ∧ InStep cfg sv request w w₁)
      (syncBidirectional cfg request) w := by
  rw [syncBidirectional]
  have hfirst : Ends cfg sv i (fun r w' ↦ ∃ result, r = .ok result ∧ w'.file = w.file ∧
      w'.db.Keyed ∧ ∀ s ∈ sourcesOf sv w.file request,
        ∃ l, w'.db.find s.item = some l ∧ Written cfg w.db s l.data)
      (syncFigmaToGithub cfg request) w := by
    refine syncFigmaToGithub_ends ?_
    refine (syncSources_ends hhash (nodup_items_sourcesOf sv w.file request) hw {}).imp ?_
    rintro r w' ⟨result, rfl, -, hfile, hkeyed, hwritten, -⟩
    exact ⟨result, rfl, result, rfl, hfile, ⟨hkeyed.nodup, hkeyed.lt⟩, hwritten⟩
  refine (lift_ends hfirst).bind ?_ ?_
  · rintro first w' ⟨_, ⟨⟩, hfile, hkeyed, hwritten⟩
    refine (syncGithubToFigma_ends hkeyed).bind ?_ ?_
    · rintro second w₁ ⟨_, ⟨⟩, -, hgrown, htold, -, hsession, hlinks, hnext⟩
      exact ⟨⟨_, rfl⟩,
        inStep_of_written hfile hwritten hkeyed hgrown htold hsession hlinks hnext⟩
    · rintro x w₁ ⟨result, hx, -⟩
      cases hx
  · rintro x w' ⟨result, hx, -⟩
    cases hx

/-- **The second run** creates no issue and no comment. It leaves the links as they are exactly when
those of the sources have the hash of the stand-in. -/
theorem second_run (hhash : cfg.Hashes) {request : Request} {w₁ : World}
    (h : InStep cfg sv request w w₁) :
    Syncs cfg sv i (fun r w₂ ↦ ∃ report, r = .ok report ∧ report.created = 0 ∧
      report.updated = 0 ∧ (w₂.db.links = w₁.db.links ↔
        ∀ s ∈ sourcesOf sv w.file request, Marked cfg w₁.db s))
      (syncBidirectional cfg request) w₁ := by
  rw [syncBidirectional]
  have hfirst : Ends cfg sv i (fun r w' ↦ ∃ result, r = .ok result ∧ result.created = 0 ∧
      result.updated = 0 ∧ w'.file = w₁.file ∧ w'.db.Keyed ∧ SameRows w₁.db w'.db ∧
      (∀ s ∈ sourcesOf sv w.file request, Marked cfg w'.db s) ∧
      ((∀ s ∈ sourcesOf sv w.file request, Marked cfg w₁.db s) →
        w'.db.session = w₁.db.session)) (syncFigmaToGithub cfg request) w₁ := by
    refine syncFigmaToGithub_ends ?_
    rw [h.sources]
    refine (syncSources_again hhash (nodup_items_sourcesOf sv w.file request) h.keyed h.settled
      {}).imp ?_
    rintro r w' ⟨result, rfl, hcreated, hupdated, hfile, hkeyed, hrows, hmarked, -, hsame⟩
    refine ⟨result, rfl, result, rfl, hcreated, hupdated, hfile, ⟨hkeyed.nodup, hkeyed.lt⟩, hrows,
      hmarked, fun hall ↦ ?_⟩
    change w'.db.session = w₁.db.session
    rw [hsame hall]
  refine (lift_ends hfirst).bind ?_ ?_
  · rintro first w' ⟨_, ⟨⟩, hcreated, hupdated, hfile, hkeyed, hrows, hmarked, hsame⟩
    refine (syncGithubToFigma_ends hkeyed).bind ?_ ?_
    · rintro second w₂ ⟨_, ⟨⟩, hcreated', -, -, hquiet, hsession, hlinks, -⟩
      -- every row is told, and in step, as the one that was there
      have htold : ∀ l ∈ w'.db.session, HasComment w'.file l := by
        intro l' hl'
        obtain ⟨l, hl, hdata⟩ := hrows l' hl'
        have htold := h.told l hl
        rw [hfile, HasComment, hdata]
        exact htold
      have hsettle : w'.db.session.map Link.settle = w'.db.session := by
        conv_rhs => rw [← List.map_id w'.db.session]
        refine List.map_congr_left fun l' hl' ↦ ?_
        obtain ⟨l, hl, hdata⟩ := hrows l' hl'
        exact settle_of_data hdata (h.rows l hl)
      obtain ⟨hupdated', -⟩ := hquiet htold
      refine ⟨_, rfl, ?_, ?_, ?_⟩
      · change first.created + second.created = 0
        rw [hcreated, hcreated']
      · change first.updated + second.updated = 0
        rw [hupdated, hupdated']
      · rw [hlinks, hsession, hsettle, h.committed]
        constructor
        · intro heq s hs
          obtain ⟨l, hl, hmark⟩ := hmarked s hs
          rw [State.find, heq] at hl
          exact ⟨l, hl, hmark⟩
        · exact hsame
    · rintro x w₂ ⟨result, hx, -⟩
      cases hx
  · rintro x w' ⟨result, hx, -⟩
    cases hx

/-! ## The fixed point -/

/-- A session of its own, on the links that are committed. -/
def World.opened (w : World) : World := { w with db := { w.db with session := w.db.links } }

/-- Two runs with the same arguments, in which no call fails, and what the second one reports and
changes of the first one's links. -/
def Twice (cfg : Config) (sv : Services) (request : Request) (w : World)
    (P : Report → List Link → List Link → Prop) : Prop :=
  ∀ i j, Syncs cfg sv i (fun r₁ w₁ ↦ (∃ report, r₁ = .ok report) ∧
    Syncs cfg sv j (fun r₂ w₂ ↦ ∃ report, r₂ = .ok report ∧ P report w₁.db.links w₂.db.links)
      (syncBidirectional cfg request) w₁.opened) (syncBidirectional cfg request) w.opened

/-- The second run creates no issue and no comment. -/
def Quiet (report : Report) (_ _ : List Link) : Prop := report.created = 0 ∧ report.updated = 0

/-- It leaves the links as they are, too. -/
def FixedPoint (report : Report) (links links' : List Link) : Prop :=
  report.created = 0 ∧ report.updated = 0 ∧ links' = links

theorem twice (hhash : cfg.Hashes) (request : Request) (hw : w.opened.db.Keyed) :
    Twice cfg sv request w fun report links links' ↦ report.created = 0 ∧ report.updated = 0 ∧
      (links' = links ↔ ∀ s ∈ sourcesOf sv w.file request, w.opened.db.Linked s.item) := by
  intro i j
  refine (first_run hhash hw request).imp ?_
  rintro r₁ w₁ ⟨hok, h⟩
  refine ⟨hok, ?_⟩
  have hopened : w₁.opened = w₁ := by
    rw [World.opened, h.committed]
  rw [hopened]
  refine (second_run hhash h).imp ?_
  rintro r₂ w₂ ⟨report, rfl, hcreated, hupdated, hlinks⟩
  refine ⟨report, rfl, hcreated, hupdated, hlinks.trans ?_⟩
  exact forall₂_congr h.marked

theorem Twice.imp {request : Request} {P P' : Report → List Link → List Link → Prop}
    (h : Twice cfg sv request w P)
    (hP : ∀ report links links', P report links links' → P' report links links') :
    Twice cfg sv request w P' := by
  intro i j
  refine (h i j).imp fun r₁ w₁ h₁ ↦ ⟨h₁.1, h₁.2.imp ?_⟩
  rintro r₂ w₂ ⟨report, hr₂, hreport⟩
  exact ⟨report, hr₂, hP _ _ _ hreport⟩

/-- What two runs do in two ways, they do in both. -/
theorem Twice.exists_and {request : Request} {P P' : Report → List Link → List Link → Prop}
    (h : Twice cfg sv request w P) (h' : Twice cfg sv request w P') :
    ∃ report links links', P report links links' ∧ P' report links links' := by
  have hanswered : ∃ failure, Answered failure := ⟨none, rfl⟩
  obtain ⟨r₁, w₁, ⟨-, h₁⟩, -, h₁'⟩ :=
    Program.EndsIn.exists_and (fun _ ↦ rfl) hanswered (h 0 0) (h' 0 0)
  obtain ⟨r₂, w₂, ⟨report, hr₂, hP⟩, report', hr₂', hP'⟩ :=
    Program.EndsIn.exists_and (fun _ ↦ rfl) hanswered h₁ h₁'
  rw [hr₂] at hr₂'
  cases hr₂'
  exact ⟨report, _, _, hP, hP'⟩

/-- **The second run is quiet, and a fixed point when there was nothing new.** After a run in which
no call fails, a second one with the same arguments creates no issue and no comment. It leaves every
link as it is exactly when every item of the file had a link with an issue before the first run. -/
theorem fixed_point_iff (cfg : Config) (sv : Services) (hhash : cfg.Hashes) (w : World)
    (hw : w.opened.db.Keyed) (request : Request) :
    Twice cfg sv request w Quiet ∧
    (Twice cfg sv request w FixedPoint ↔
      ∀ s ∈ sourcesOf sv w.file request, w.opened.db.Linked s.item) := by
  have htwice : Twice cfg sv request w fun report links links' ↦ report.created = 0 ∧
      report.updated = 0 ∧ (links' = links ↔
        ∀ s ∈ sourcesOf sv w.file request, w.opened.db.Linked s.item) := twice hhash request hw
  refine ⟨htwice.imp fun _ _ _ h ↦ ⟨h.1, h.2.1⟩, fun hfixed ↦ ?_, fun hlinked ↦ ?_⟩
  · obtain ⟨report, links, links', ⟨-, -, hiff⟩, -, -, hsame⟩ := htwice.exists_and hfixed
    exact hiff.mp hsame
  · exact htwice.imp fun _ _ _ h ↦ ⟨h.1, h.2.1, h.2.2.mpr hlinked⟩

/-! ## A small file -/

/-- The body of the issue of the comment `m`. -/
def exampleBody : String :=
  issueBody "f" "m" { syncKind := "comment", item := ⟨none, some "1"⟩, summary := "m" }

/-- The hashes of the stand-in, of that issue and of that comment. -/
def exampleConfig : Config where
  fileKey := "f"
  hashSource source :=
    if source.summary = "m" then "676e8a51bda7a3e272ec7fdda7aac87b0c9ca6fab629042e08cf5da30b978460"
    else ""
  hashIssue x :=
    if x.title = some "" ∧ x.body = some "" ∧ x.state = none then
      "d210e51880141d9eaf2668dea6a9ca9cab2664c06d362751a61a4e18a416f924"
    else if x.title = some "[Figma] m" ∧ x.body = some exampleBody ∧ x.state = some "open" then
      "565bced0b622918a2635a74d1923b90cb11212f20d7c59c1ee36f642e9dcd3bb"
    else ""

theorem exampleConfig_hashes : exampleConfig.Hashes where
  congr := by
    intro x y htitle hbody hstate
    simp only [exampleConfig, htitle, hbody, hstate]
  standIn := by
    intro x hx
    by_contra hbody
    have hleft : exampleConfig.hashIssue standIn
        = "d210e51880141d9eaf2668dea6a9ca9cab2664c06d362751a61a4e18a416f924" := rfl
    rw [hleft] at hx
    simp only [exampleConfig, hbody, false_and, and_false, if_false] at hx
    split at hx
    · exact absurd hx (by decide)
    · exact absurd hx (by decide)

/-- A file without frames. -/
def exampleServices : Services where
  nodes _ := []
  nodes_nodup _ := List.nodup_nil
  newId ids := String.ofList (List.replicate ((ids.map String.length).foldr max 0 + 1) 'c')
  newId_notMem ids hmem := by
    have hle : ∀ ids : List String, ∀ id ∈ ids,
        id.length ≤ (ids.map String.length).foldr max 0 := by
      intro ids
      induction ids with
      | nil => exact fun _ h ↦ absurd h List.not_mem_nil
      | cons id ids ih =>
        refine List.forall_mem_cons.mpr ⟨le_max_left _ _, fun id' hid' ↦ ?_⟩
        exact (ih id' hid').trans (le_max_right _ _)
    have hlength := hle ids _ hmem
    rw [← String.length_toList, String.toList_ofList, List.length_replicate] at hlength
    omega
  issueUrl number := "https://github.com/o/r/issues/" ++ toString number

/-- A file with one comment. -/
def exampleWorld : World where
  db := {}
  file := { comments := [{ id := some "1", message := some "m" }], ids_nodup := by decide }
  repo := []

/-- A file with a comment that has no link. -/
theorem fixed_point_iff_example :
    Twice exampleConfig exampleServices {} exampleWorld Quiet ∧
    (Twice exampleConfig exampleServices {} exampleWorld FixedPoint ↔
      ∀ s ∈ sourcesOf exampleServices exampleWorld.file {},
        exampleWorld.opened.db.Linked s.item) :=
  fixed_point_iff exampleConfig exampleServices exampleConfig_hashes exampleWorld
    ⟨List.nodup_nil, List.forall_mem_nil _⟩ {}

/-- A run on a world, with every call answered. -/
def exampleRun (w : World) : Option (World × Except Error Report) :=
  (syncBidirectional exampleConfig {}).runAlone (world exampleConfig exampleServices) 0
    (List.replicate 20 none) w.opened

/-- What a run reports, and the hashes in the links after it. -/
def exampleSeen (r : Option (World × Except Error Report)) :
    Option (Option (ℕ × ℕ) × List (Option String)) :=
  r.map fun x ↦ (x.2.toOption.map fun report ↦ (report.created, report.updated),
    x.1.db.links.map (·.data.lastGithubHash))

/-- The second run writes another hash into the link that the first one has made. -/
theorem link_changed :
    exampleSeen (exampleRun exampleWorld) = some (some (1, 1),
      [some "565bced0b622918a2635a74d1923b90cb11212f20d7c59c1ee36f642e9dcd3bb"]) ∧
    exampleSeen ((exampleRun exampleWorld).bind fun x ↦ exampleRun x.1) = some (some (0, 0),
      [some "d210e51880141d9eaf2668dea6a9ca9cab2664c06d362751a61a4e18a416f924"]) :=
  ⟨by decide +kernel, by decide +kernel⟩

end FigmaGithub

end ReqSys
