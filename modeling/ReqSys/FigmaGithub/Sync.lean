import Mathlib
import ReqSys.Foundation.PyText
import ReqSys.Foundation.Serial
import ReqSys.Foundation.Table

/-!
# Figma to GitHub

`sync_figma_to_github` makes an issue for every open comment and every chosen frame of a file. What
has been made is written down three times: the issue carries a marker in its body, the link to it is
flushed into the session, and the session is committed at the end of the run. If the run stops
before that, the links are lost, and the next run has to find the issues by their markers.

A search that fails is a warning, and then an issue is created. The request that creates one is
repeated after a failure of the network. So an item may get a second issue when a search fails
although it has one, and when the answer to a request that has created one is lost.
-/

namespace ReqSys

namespace FigmaGithub

open PyText

/-! ## Figma -/

structure Resource where
  name : Option String := none
  url : Option String := none

/-- A comment, as Figma returns it. -/
structure Comment where
  id : Option String
  message : Option String := none
  text : Option String := none
  resolvedAt : Option String := none
  createdAt : Option String := none
  /-- `client_meta.node_id`. -/
  nodeId : Option String := none
  /-- `client_meta.node_offset.node_id`. -/
  nodeOffset : Option String := none
  handle : Option String := none
  email : Option String := none

/-- The document of a node. -/
structure Document where
  name : Option String := none
  type : Option String := none
  /-- `devResources`. -/
  devResources : List Resource := []
  /-- `dev_resources`. -/
  resources : List Resource := []

/-- What an issue is made for: a comment or a frame. -/
structure Item where
  nodeId : Option String
  commentId : Option String
  deriving DecidableEq

structure Source where
  syncKind : String
  item : Item
  name : Option String := none
  summary : String
  author : Option String := none
  createdAt : Option String := none
  devResources : Option (List Resource) := none

/-! ## GitHub -/

/-- An issue, as GitHub returns it. -/
structure Issue where
  number : Option ℕ := none
  htmlUrl : Option String := none
  title : Option String := none
  body : Option String := none
  state : Option String := none

/-- An issue that has been created, and for what. -/
structure Created where
  item : Item
  body : String

/-! ## Links -/

/-- What is updated in a link. -/
structure LinkData where
  githubIssueNumber : Option ℕ
  githubIssueUrl : Option String
  lastFigmaHash : Option String
  lastGithubHash : Option String
  status : String
  conflictReason : Option String

/-- A link of the file and the repository. -/
structure Link where
  id : ℕ
  item : Item
  syncKind : String
  data : LinkData

/-- The file, the repository, and the hashes. -/
structure Config where
  fileKey : String
  /-- `_hash_payload` of a source. -/
  hashSource : Source → String
  /-- `_hash_payload` of the title, the body and the state of an issue. -/
  hashIssue : Issue → String

/-- The committed links, those that the session sees, and the issues. -/
structure State where
  links : List Link := []
  session : List Link := []
  nextId : ℕ := 1
  created : List Created := []

/-- An exception; `URLError` is a failure of the network. -/
inductive Error
  | urlError (reason : String)
  | other (message : String)

/-- `str(exc)`. -/
def Error.text : Error → String
  | urlError reason => "<urlopen error " ++ reason ++ ">"
  | other message => message

/-- What a call gets from outside. -/
structure Env where
  failure : Option Error := none
  /-- A request that fails has had its effect. -/
  applied : Bool := false
  comments : List Comment := []
  nodes : List (String × Option Document) := []
  /-- What GitHub says of an issue. -/
  issue : Issue := {}
  /-- Somebody else has written the marker into an issue. -/
  foreign : Bool := false

inductive Cmd
  | getComments
  | getNodes (nodeIds : List String)
  /-- `_find_link`. -/
  | findLink (item : Item)
  /-- `find_issue_by_marker`. -/
  | findIssueByMarker (item : Item)
  /-- One request of `create_issue`, with the number of requests that may follow. -/
  | postIssue (left : ℕ) (item : Item) (title body : String)
  /-- A link is inserted or updated, and flushed. -/
  | flush (id : Option ℕ) (item : Item) (syncKind : String) (data : LinkData)
  | commit

abbrev Cmd.Ans : Cmd → Type
  | getComments => List Comment
  | getNodes _ => List (String × Option Document)
  | findLink _ => Option Link
  | findIssueByMarker _ => Option Issue
  | postIssue _ _ _ _ => Issue
  | flush _ _ _ _ => ℕ
  | commit => Unit

/-- `build_marker`. -/
def buildMarker (fileKey : String) (item : Item) : String :=
  "<!-- reqsys-figma-sync:file=" ++ fileKey ++ ";node=" ++ item.nodeId.getD "" ++ ";comment="
    ++ item.commentId.getD "" ++ " -->"

def Env.answer {α : Type} (e : Env) (a : α) : Except Error α :=
  match e.failure with
  | none => .ok a
  | some x => .error x

/-- The request creates an issue. -/
def Env.creates (e : Env) : Bool := e.failure.isNone || e.applied

/-- The link after a flush. -/
def State.flush (s : State) (id : Option ℕ) (item : Item) (syncKind : String) (data : LinkData) :
    State × ℕ :=
  match id with
  | none =>
    ({ s with
        session := s.session ++ [{ id := s.nextId, item, syncKind, data }]
        nextId := s.nextId + 1 }, s.nextId)
  | some id =>
    ({ s with session := Table.update Link.id id (fun l ↦ { l with data := data }) s.session }, id)

/-- A search that succeeds finds every issue that has been created. -/
def exec (cfg : Config) (_ : ℕ) : (op : Cmd) → Env → State → State × Except Error op.Ans
  | .getComments, e, s => (s, e.answer e.comments)
  | .getNodes _, e, s => (s, e.answer e.nodes)
  | .findLink item, e, s => (s, e.answer (s.session.find? (·.item = item)))
  | .findIssueByMarker item, e, s =>
    (s, e.answer (if s.created.any (contains (buildMarker cfg.fileKey item) ·.body) || e.foreign
      then some e.issue else none))
  | .postIssue _ item _ body, e, s =>
    (if e.creates then { s with created := s.created ++ [⟨item, body⟩] } else s, e.answer e.issue)
  | .flush id item syncKind data, e, s =>
    match e.failure with
    | none => ((s.flush id item syncKind data).1, .ok (s.flush id item syncKind data).2)
    | some x => (s, .error x)
  | .commit, e, s =>
    match e.failure with
    | none => ({ s with links := s.session }, .ok ())
    | some x => (s, .error x)

/-- A session that ends without a commit is rolled back. -/
def machine (cfg : Config) : Machine Cmd.Ans Error State Env where
  exec := exec cfg
  close _ s := { s with session := s.links }

abbrev Process := Program Cmd.Ans Error

def run (op : Cmd) : Process op.Ans := .perform op

/-! ## Requests -/

/-- `call_with_retry` for failures of the network, with the number of attempts after this one. An
open circuit is a failure of the first. -/
def callWithRetry {α : Type} (fn : ℕ → Process α) : ℕ → Process α
  | 0 => fn 0
  | left + 1 => do
    match ← (fn (left + 1)).attempt with
    | .ok result => return result
    | .error (.urlError _) => callWithRetry fn left
    | .error x => .raise x

def githubMaxRetries : ℕ := 3

/-- `_request_json` of `github_client`. -/
def requestJson {α : Type} (fn : ℕ → Process α) : Process α := do
  match ← (callWithRetry fn (githubMaxRetries - 1)).attempt with
  | .ok result => return result
  | .error (.urlError reason) => .raise (.other ("Falha de rede no GitHub: " ++ reason))
  | .error x => .raise x

/-- `create_issue`. -/
def createIssue (item : Item) (title body : String) : Process Issue :=
  requestJson fun left ↦ run (.postIssue left item title body)

/-! ## One source -/

structure ResultLink where
  id : Option ℕ := none
  item : Item
  githubIssueNumber : Option ℕ

structure SyncResult where
  created : ℕ := 0
  updated : ℕ := 0
  skipped : ℕ := 0
  conflicts : ℕ := 0
  warnings : List String := []
  links : List ResultLink := []

/-- `_direct_figma_url`. -/
def directFigmaUrl (fileKey : String) (nodeId : Option String) : String :=
  "https://www.figma.com/file/" ++ fileKey ++
    if truthy nodeId then "?node-id=" ++ nodeId.getD "" else ""

/-- `_short_text`. -/
def shortText (text fallback : String) : String :=
  let clean := String.intercalate " "
    (((text.toList.splitOnP isSpace).filter (· ≠ [])).map String.ofList)
  if clean = "" then fallback else take 80 clean

/-- `value or default`. -/
def orElse (value : Option String) (default : String) : String :=
  if truthy value then value.getD default else default

/-- `_issue_body`. -/
def issueBody (fileKey : String) (summary : String) (source : Source) : String :=
  String.intercalate "\n" (buildMarker fileKey source.item :: ["",
    "Sincronizado automaticamente pelo ReqSys.",
    "",
    "Figma: " ++ directFigmaUrl fileKey source.item.nodeId,
    "Tipo: " ++ orElse (some source.syncKind) "comment",
    "",
    summary] ++ match source.devResources.getD [] with
      | [] => []
      | resources => ["", "Dev resources:"] ++ resources.map fun resource ↦
        "- " ++ orElse resource.name (orElse resource.url "resource") ++ ": "
          ++ orElse resource.url "-")

/-- `_create_or_update_link`. -/
def createOrUpdateLink (item : Item) (syncKind : String) (data : LinkData) : Process ℕ := do
  let link ← run (.findLink item)
  run (.flush (link.map Link.id) item syncKind data)

/-- The issue of a link. -/
def issueOfLink (link : Link) : Issue where
  number := link.data.githubIssueNumber
  htmlUrl := link.data.githubIssueUrl
  body := some ""
  title := some ""

/-- A link has the number of its issue. -/
def Link.numbered (link : Link) : Bool := link.data.githubIssueNumber.any (· ≠ 0)

/-- The issue that an item has, from its link or by its marker. A failure is a warning. -/
def findIssue (item : Item) (link : Option Link) (result : SyncResult) :
    Process (Option Issue × SyncResult) := do
  match link.filter Link.numbered with
  | some link => return (some (issueOfLink link), result)
  | none =>
    match ← (run (.findIssueByMarker item)).attempt with
    | .ok issue => return (issue, result)
    | .error exc => return (none, { result with warnings := result.warnings ++ [exc.text] })

/-- The item has an issue. -/
def linkIssue (cfg : Config) (source : Source) (link : Option Link) (issue : Issue)
    (result : SyncResult) : Process SyncResult := do
  let figmaHash := cfg.hashSource source
  let conflict := link.any fun link ↦
    truthy link.data.lastFigmaHash && link.data.lastFigmaHash ≠ some figmaHash
  let _ ← createOrUpdateLink source.item (orElse (some source.syncKind) "comment") {
    githubIssueNumber := issue.number
    githubIssueUrl := issue.htmlUrl
    lastFigmaHash := some figmaHash
    lastGithubHash := some (cfg.hashIssue issue)
    status := if conflict then "conflict_resolved_github" else "synced"
    conflictReason := if conflict then
      some "GitHub venceu divergencia entre Figma e issue vinculada." else none }
  let result := if conflict then { result with conflicts := result.conflicts + 1 }
    else { result with skipped := result.skipped + 1 }
  return { result with
    links := result.links ++ [{ item := source.item, githubIssueNumber := issue.number }] }

/-- The item has no issue. -/
def makeIssue (cfg : Config) (source : Source) (result : SyncResult) : Process SyncResult := do
  let summary := orElse (some source.summary) "Item Figma sem descricao."
  let body := issueBody cfg.fileKey summary source
  let title := "[Figma] " ++ shortText summary (orElse source.name "Item de design")
  match ← (createIssue source.item title body).attempt with
  | .error exc => return { result with warnings := result.warnings ++ [exc.text] }
  | .ok created => do
    let id ← createOrUpdateLink source.item (orElse (some source.syncKind) "comment") {
      githubIssueNumber := created.number
      githubIssueUrl := created.htmlUrl
      lastFigmaHash := some (cfg.hashSource source)
      lastGithubHash := some (cfg.hashIssue created)
      status := "synced"
      conflictReason := none }
    return { result with
      created := result.created + 1
      links := result.links ++
        [{ id := some id, item := source.item, githubIssueNumber := created.number }] }

/-- `_sync_one_to_github`. -/
def syncOneToGithub (cfg : Config) (source : Source) (result : SyncResult) :
    Process SyncResult := do
  let link ← run (.findLink source.item)
  match ← findIssue source.item link result with
  | (some issue, result) => linkIssue cfg source link issue result
  | (none, result) => makeIssue cfg source result

/-! ## A run -/

def reqsysFigmaBackPrefix : String := "[ReqSys Sync] "

/-- `_extract_node_id_from_comment`. -/
def extractNodeIdFromComment (comment : Comment) : Option String :=
  if truthy comment.nodeId then comment.nodeId
  else if truthy comment.nodeOffset then comment.nodeOffset
  else none

/-- The source of a comment that is open and has an id. -/
def commentSource (comment : Comment) : Option Source :=
  let message := orElse comment.message (orElse comment.text "")
  if truthy comment.resolvedAt || startsWith reqsysFigmaBackPrefix message
    || !truthy comment.id then none
  else some {
    syncKind := "comment"
    item := { nodeId := extractNodeIdFromComment comment, commentId := comment.id }
    summary := message
    author := if truthy comment.handle then comment.handle else comment.email
    createdAt := comment.createdAt }

/-- `_collect_comment_sources`. -/
def collectCommentSources : Process (List Source) := do
  return (← run .getComments).filterMap commentSource

/-- The source of a node. -/
def frameSource (nodeId : String) (wrapper : Option Document) : Source :=
  let document := wrapper.getD {}
  let name := orElse document.name ("Frame " ++ nodeId)
  { syncKind := "frame"
    item := { nodeId := some nodeId, commentId := none }
    name := some name
    summary := orElse document.type "NODE" ++ ": " ++ name
    devResources := some (match document.devResources with
      | [] => document.resources
      | resources => resources) }

/-- `_collect_frame_sources`. -/
def collectFrameSources (nodeIds : List String) : Process (List Source) :=
  match nodeIds with
  | [] => pure []
  | nodeIds => do return (← run (.getNodes nodeIds)).map fun node ↦ frameSource node.1 node.2

/-- The arguments of a run. -/
structure Request where
  nodeIds : List String := []
  includeComments : Bool := true
  includeFrames : Bool := true
  includeDevResources : Bool := true

/-- `sync_figma_to_github`. -/
def syncFigmaToGithub (cfg : Config) (request : Request) : Process SyncResult := do
  let comments ← (if request.includeComments then collectCommentSources else pure [])
  let frames ← (if request.includeFrames then collectFrameSources request.nodeIds else pure [])
  let sources := (comments ++ frames).map fun source ↦
    if request.includeDevResources then source else { source with devResources := none }
  let result ← sources.foldlM (fun result source ↦ syncOneToGithub cfg source result) {}
  run .commit
  return result

abbrev Sessions := Pool State (Process SyncResult)

/-- A move, with the outcome it delivers. -/
abbrev Step := Move Request Env × Option (Except Error SyncResult)

/-- One run after the other; a run may be killed between any two of its calls. -/
def runs (cfg : Config) : TransitionSystem Sessions Step :=
  Pool.serial {} (syncFigmaToGithub cfg) (machine cfg)

/-! ## One issue an item -/

/-- Every issue has the marker of its item, and no other issue has the item. -/
structure Unique (cfg : Config) (s : State) : Prop where
  marked : ∀ x ∈ s.created, contains (buildMarker cfg.fileKey x.item) x.body = true
  nodup : (s.created.map Created.item).Nodup

/-- No issue has been created for the item. -/
def Absent (item : Item) (s : State) : Prop := ∀ x ∈ s.created, x.item ≠ item

/-- The answer is lost in the network. -/
def Env.lost (e : Env) : Bool :=
  match e.failure with
  | some (.urlError _) => true
  | _ => false

/-- **The condition.** A search fails only if the item has no issue, and no request follows one that
has created an issue and whose answer is lost. -/
def Meets (s : State) : ℕ × Cmd × Env → Prop
  | (_, .findIssueByMarker item, e) => e.failure.isSome = true → Absent item s
  | (_, .postIssue left _ _ _, e) => e.creates = true → e.lost = true → left = 0
  | _ => True

variable {cfg : Config} {s : State} {source : Source} {item : Item} {i : ℕ}

/-- The calls that create no issue. -/
def Cmd.Quiet : Cmd → Prop
  | .postIssue _ _ _ _ => False
  | _ => True

theorem created_exec {op : Cmd} (hop : op.Quiet) (e : Env) :
    (exec cfg i op e s).1.created = s.created := by
  cases op with
  | postIssue left item title body => exact hop.elim
  | flush id item syncKind data =>
    rw [exec]
    split
    · rcases id with _ | id <;> rfl
    · rfl
  | commit =>
    rw [exec]
    split <;> rfl
  | _ => rfl

theorem Unique.of_created {s' : State} (h : Unique cfg s) (hs : s'.created = s.created) :
    Unique cfg s' := by
  obtain ⟨hmarked, hnodup⟩ := h
  exact ⟨hs ▸ hmarked, hs ▸ hnodup⟩

/-- The marker is the first line of the body. -/
theorem contains_issueBody (fileKey summary : String) (source : Source) :
    contains (buildMarker fileKey source.item) (issueBody fileKey summary source) = true := by
  rw [contains, List.any_eq_true]
  refine ⟨_, (List.mem_tails _ _).mpr (List.suffix_refl _), ?_⟩
  rw [List.isPrefixOf_iff_prefix, issueBody, List.cons_append, List.cons_append,
    String.intercalate_cons_cons, String.toList_append, String.toList_append, List.append_assoc]
  exact List.prefix_append _ _

theorem Unique.post {left : ℕ} {title body : String} {e : Env} (h : Unique cfg s)
    (habsent : Absent item s) (hbody : contains (buildMarker cfg.fileKey item) body = true) :
    Unique cfg (exec cfg i (.postIssue left item title body) e s).1 := by
  rw [exec]
  dsimp only
  split
  · refine ⟨fun x hx ↦ ?_, ?_⟩
    · obtain hx | hx := List.mem_append.mp hx
      · exact h.marked x hx
      · rwa [List.mem_singleton.mp hx]
    · rw [List.map_append, List.nodup_append]
      refine ⟨h.nodup, List.nodup_singleton _, ?_⟩
      intro k hk k' hk'
      obtain ⟨x, hx, rfl⟩ := List.mem_map.mp hk
      rw [List.mem_singleton.mp hk']
      exact habsent x hx
  · exact h

theorem contains_of_not_absent (h : Unique cfg s) (habsent : ¬Absent item s) :
    s.created.any (contains (buildMarker cfg.fileKey item) ·.body) = true := by
  simp only [Absent, not_forall, not_not] at habsent
  obtain ⟨x, hx, rfl⟩ := habsent
  exact List.any_eq_true.mpr ⟨x, hx, h.marked x hx⟩

/-- A program keeps it at every moment. -/
abbrev Keeps (cfg : Config) {α : Type} (Q : Except Error α → State → Prop) (p : Process α)
    (s : State) : Prop :=
  p.Always (machine cfg) 0 Meets (Unique cfg) (fun r s' ↦ Unique cfg s' ∧ Q r s') s

/-- A program without requests for an issue. -/
theorem keeps_of_quiet {α : Type} {p : Process α} (hp : p.AllCalls Cmd.Quiet)
    (h : Unique cfg s) : Keeps cfg (fun _ s' ↦ s'.created = s.created) p s := by
  refine .of_calls (J := fun s' ↦ Unique cfg s' ∧ s'.created = s.created) ?_ (fun _ hs ↦ hs.1) hp
    ⟨h, rfl⟩
  rintro op e s' hop ⟨hs', hcreated⟩
  have hexec : (exec cfg 0 op e s').1.created = s'.created := created_exec hop e
  exact ⟨hs'.of_created hexec, hexec.trans hcreated⟩

/-- An issue is found, or there is none. -/
theorem keeps_findIssue {link : Option Link} {result : SyncResult} (h : Unique cfg s) :
    Keeps cfg (fun r s' ↦ ∀ result', r = .ok (none, result') → Absent item s')
      (findIssue item link result) s := by
  rw [findIssue]
  split
  · refine ⟨h, ?_⟩
    rintro _ ⟨⟩
  · refine Program.Always.attempt_bind (Q := fun r s' ↦ Unique cfg s' ∧
      (r = .ok none ∨ (∃ x, r = .error x) → Absent item s')) ?_ ?_
    · refine .perform fun e hmeets ↦ ⟨h, h, fun hr ↦ ?_⟩
      -- a failure is allowed for an item without an issue only, and an answer is not a failure
      change Env.answer e _ = _ ∨ (∃ x, Env.answer e _ = _) at hr
      rw [Env.answer] at hr
      split at hr
      next hok =>
        obtain hnone | ⟨x, hx⟩ := hr
        · by_contra habsent
          rw [contains_of_not_absent h habsent, Bool.true_or, if_pos rfl] at hnone
          cases hnone
        · cases hx
      next x hx => exact hmeets (by rw [hx]; rfl)
    · rintro (x | issue) s' ⟨hs', habsent⟩
      · exact ⟨hs', fun _ _ ↦ habsent (.inr ⟨x, rfl⟩)⟩
      · refine ⟨hs', ?_⟩
        rintro _ ⟨⟩
        exact habsent (.inl rfl)

/-- One request. If more may follow and it is to be repeated, it has not created an issue. -/
theorem keeps_postIssue {title body : String} {left : ℕ} (h : Unique cfg s)
    (habsent : Absent item s) (hbody : contains (buildMarker cfg.fileKey item) body = true) :
    Keeps cfg (fun r s' ↦ ∀ reason, r = .error (.urlError reason) → left ≠ 0 → Absent item s')
      (run (.postIssue left item title body)) s := by
  refine .perform fun e hmeets ↦ ?_
  have hpost : Unique cfg (exec cfg 0 (.postIssue left item title body) e s).1 :=
    h.post habsent hbody
  refine ⟨hpost, hpost, ?_⟩
  intro reason hr hleft
  have hlost : e.lost = true := by
    change Env.answer e _ = _ at hr
    rw [Env.answer] at hr
    split at hr
    · cases hr
    next x hx =>
      cases hr
      rw [Env.lost, hx]
  have hcreates : e.creates = false := by
    by_contra hcreates
    exact hleft (hmeets (Bool.eq_true_of_not_eq_false hcreates) hlost)
  change Absent item (exec cfg 0 (.postIssue left item title body) e s).1
  rw [exec, hcreates]
  exact habsent

/-- While there are attempts left no issue has been created. -/
theorem keeps_callWithRetry {title body : String} (left : ℕ) (h : Unique cfg s)
    (habsent : Absent item s) (hbody : contains (buildMarker cfg.fileKey item) body = true) :
    Keeps cfg (fun _ _ ↦ True)
      (callWithRetry (fun left ↦ run (.postIssue left item title body)) left) s := by
  induction left generalizing s with
  | zero => exact (keeps_postIssue h habsent hbody).imp fun _ _ hs ↦ ⟨hs.1, trivial⟩
  | succ left ih =>
    rw [callWithRetry]
    refine (keeps_postIssue h habsent hbody).attempt_bind ?_
    rintro (x | issue) s' ⟨hs', habsent'⟩
    · rcases x with reason | message
      · exact ih hs' (habsent' reason rfl (Nat.succ_ne_zero left))
      · exact ⟨hs', trivial⟩
    · exact ⟨hs', trivial⟩

theorem keeps_createIssue {title body : String} (h : Unique cfg s) (habsent : Absent item s)
    (hbody : contains (buildMarker cfg.fileKey item) body = true) :
    Keeps cfg (fun _ _ ↦ True) (createIssue item title body) s := by
  rw [createIssue, requestJson]
  refine (keeps_callWithRetry _ h habsent hbody).attempt_bind ?_
  rintro (x | issue) s' ⟨hs', -⟩
  · rcases x with reason | message
    · exact ⟨hs', trivial⟩
    · exact ⟨hs', trivial⟩
  · exact ⟨hs', trivial⟩

theorem allCalls_createOrUpdateLink (item : Item) (syncKind : String) (data : LinkData) :
    (createOrUpdateLink item syncKind data).AllCalls Cmd.Quiet :=
  (Program.AllCalls.perform trivial).bind fun _ ↦ .perform trivial

theorem keeps_makeIssue {result : SyncResult} (h : Unique cfg s) (habsent : Absent source.item s) :
    Keeps cfg (fun _ _ ↦ True) (makeIssue cfg source result) s := by
  rw [makeIssue]
  refine (keeps_createIssue h habsent (contains_issueBody _ _ _)).attempt_bind ?_
  rintro (x | issue) s' ⟨hs', -⟩
  · exact ⟨hs', trivial⟩
  · refine (keeps_of_quiet ?_ hs').imp fun _ _ hs ↦ ⟨hs.1, trivial⟩
    exact (allCalls_createOrUpdateLink _ _ _).bind fun _ ↦ .ret _

theorem keeps_syncOneToGithub {result : SyncResult} (h : Unique cfg s) :
    Keeps cfg (fun _ _ ↦ True) (syncOneToGithub cfg source result) s := by
  rw [syncOneToGithub]
  have hfind : (run (.findLink source.item)).AllCalls Cmd.Quiet := .perform trivial
  refine (keeps_of_quiet hfind h).bind ?_ fun _ _ hs ↦ ⟨hs.1, trivial⟩
  intro link s₁ hs₁
  refine (keeps_findIssue hs₁.1).bind ?_ fun _ _ hs ↦ ⟨hs.1, trivial⟩
  rintro ⟨_ | issue, result'⟩ s₂ ⟨hs₂, habsent⟩
  · exact keeps_makeIssue hs₂ (habsent result' rfl)
  · refine (keeps_of_quiet ?_ hs₂).imp fun _ _ hs ↦ ⟨hs.1, trivial⟩
    exact (allCalls_createOrUpdateLink _ _ _).bind fun _ ↦ .ret _

theorem keeps_syncFigmaToGithub (request : Request) (h : Unique cfg s) :
    Keeps cfg (fun _ _ ↦ True) (syncFigmaToGithub cfg request) s := by
  have hsources {p : Process (List Source)} (hp : p.AllCalls Cmd.Quiet) {s : State}
      (h : Unique cfg s) : Keeps cfg (fun _ _ ↦ True) p s :=
    (keeps_of_quiet hp h).imp fun _ _ hs ↦ ⟨hs.1, trivial⟩
  have hcomments : (if request.includeComments then collectCommentSources
      else pure []).AllCalls Cmd.Quiet := by
    split
    · exact (Program.AllCalls.perform trivial).bind fun _ ↦ .ret _
    · exact .ret _
  have hframes : (if request.includeFrames then collectFrameSources request.nodeIds
      else pure []).AllCalls Cmd.Quiet := by
    split
    · rcases request.nodeIds with _ | ⟨nodeId, nodeIds⟩
      · exact .ret _
      · exact (Program.AllCalls.perform trivial).bind fun _ ↦ .ret _
    · exact .ret _
  rw [syncFigmaToGithub]
  refine (hsources hcomments h).bind (fun comments s₁ hs₁ ↦ ?_) fun _ _ hs ↦ ⟨hs.1, trivial⟩
  refine (hsources hframes hs₁.1).bind (fun frames s₂ hs₂ ↦ ?_) fun _ _ hs ↦ ⟨hs.1, trivial⟩
  refine Program.Always.bind (Q := fun _ s ↦ Unique cfg s ∧ True)
    (Program.Always.foldlM ?_ hs₂) (fun result s₃ hs₃ ↦ ?_) fun _ _ hs ↦ hs
  · exact fun result source s hs ↦ keeps_syncOneToGithub hs.1
  · refine (keeps_of_quiet ?_ hs₃.1).imp fun _ _ hs ↦ ⟨hs.1, trivial⟩
    exact (Program.AllCalls.perform trivial).bind fun _ ↦ .ret _

/-- **One issue an item.** In the runs that meet the condition no item gets a second issue, at any
moment. -/
theorem one_issue_an_item (cfg : Config) {tr : List Step} {p : Sessions}
    (h : ((runs cfg).restrict fun p m ↦ ∀ x ∈ p.nextCall m.1, Meets p.store x).Run tr p)
    (item : Item) : p.store.created.countP (·.item = item) ≤ 1 := by
  have hunique : Unique cfg p.store := by
    refine Pool.invariant_of_always ⟨List.forall_mem_nil _, List.nodup_nil⟩ (fun hs ↦ ?_) ?_ h
    · exact hs.of_created rfl
    · exact fun request s hs ↦ (keeps_syncFigmaToGithub request hs).imp fun _ _ _ ↦ trivial
  have hcount := List.nodup_iff_count_le_one.mp hunique.nodup item
  rw [List.count, List.countP_map] at hcount
  refine le_of_eq_of_le (List.countP_congr fun x _ ↦ ?_) hcount
  simp

/-! ## Two small runs -/

instance (item : Item) (s : State) : Decidable (Absent item s) :=
  inferInstanceAs (Decidable (∀ x ∈ s.created, x.item ≠ item))

instance (s : State) : (x : ℕ × Cmd × Env) → Decidable (Meets s x)
  | (_, .findIssueByMarker item, _) => inferInstanceAs (Decidable (_ = true → Absent item s))
  | (_, .postIssue left _ _ _, e) =>
    inferInstanceAs (Decidable (e.creates = true → e.lost = true → left = 0))
  | (_, .getComments, _) | (_, .getNodes _, _) | (_, .findLink _, _) | (_, .flush _ _ _ _, _)
  | (_, .commit, _) => .isTrue trivial

def sampleConfig : Config where
  fileKey := "f"
  hashSource source := source.summary
  hashIssue issue := issue.title.getD ""

/-- The file has one comment. -/
def sampleEnv : Env where
  comments := [{ id := some "1", message := some "m" }]
  issue := { number := some 7 }

/-- A run is killed after it has created the issue. -/
def sampleKilled : List (Move Request Env) :=
  .start 0 {} :: List.replicate 4 (.advance 0 sampleEnv) ++ [.crash 0]

/-- In the next run the search fails. -/
def sampleFailed : List (Move Request Env) :=
  sampleKilled ++ .start 0 {} :: List.replicate 2 (.advance 0 sampleEnv) ++
    [.advance 0 { sampleEnv with failure := some (.other "HTTP 502 no GitHub") },
      .advance 0 sampleEnv]

/-- In the next run the search finds the issue, and the link is committed. -/
def sampleFound : List (Move Request Env) :=
  sampleKilled ++ .start 0 {} :: List.replicate 7 (.advance 0 sampleEnv)

/-- The trace and the state after the moves. -/
def sampleRun (moves : List (Move Request Env)) : List Step × Sessions :=
  TransitionSystem.runCalls (Pool.move (syncFigmaToGithub sampleConfig) (machine sampleConfig))
    moves ⟨{}, fun _ ↦ none⟩

theorem one_issue_an_item_sample :
    (sampleRun sampleFound).2.store.links.length = 1 ∧
    (sampleRun sampleFound).2.store.created.countP (·.item = ⟨none, some "1"⟩) ≤ 1 := by
  have hrun : ((runs sampleConfig).restrict fun p m ↦
      ∀ x ∈ p.nextCall m.1, Meets p.store x).Run (sampleRun sampleFound).1
      (sampleRun sampleFound).2 :=
    Pool.run_serial (TransitionSystem.run_restrict_runCalls _ (by decide +kernel))
  exact ⟨by decide +kernel, one_issue_an_item sampleConfig hrun ⟨none, some "1"⟩⟩

/-- The link is lost, the search fails, and the comment gets a second issue. -/
theorem second_issue : ∃ tr p, (runs sampleConfig).Run tr p ∧
    p.store.created.countP (·.item = ⟨none, some "1"⟩) = 2 := by
  refine ⟨_, (sampleRun sampleFailed).2, TransitionSystem.run_restrict_runCalls _ ?_, ?_⟩
  · decide +kernel
  · decide +kernel

end FigmaGithub

end ReqSys
