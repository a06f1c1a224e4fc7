import Mathlib
import ReqSys.FigmaGithub.Sync

/-!
# Both directions

`sync_bidirectional` first makes issues for the comments and frames of a file, and then writes a
comment into the file for every link that has an issue. Each direction reads what the other one has
written: the comments of ReqSys are told apart by how they begin, and a comment is not written when
one with the same text is there.

The services are deterministic here. A call fails or takes effect and is answered, and Figma and
GitHub return what was posted to them.
-/

namespace ReqSys

namespace FigmaGithub

open PyText

/-! ## The services -/

/-- The comments of a file. Their ids are distinct. -/
structure FigmaFile where
  comments : List Comment
  ids_nodup : (comments.filterMap Comment.id).Nodup

/-- An issue or a pull request of the repository. -/
structure RepoIssue where
  number : ℕ
  htmlUrl : String
  title : String
  body : Option String
  state : String
  pullRequest : Bool
  number_pos : 0 < number

/-- An issue as the API returns it. -/
def RepoIssue.issue (x : RepoIssue) : Issue where
  number := some x.number
  htmlUrl := some x.htmlUrl
  title := some x.title
  body := x.body
  state := some x.state

/-- What the services decide by themselves: the nodes of the file, which are the keys of an object,
the ids of new comments, and the addresses of new issues. -/
structure Services where
  nodes : List String → List (String × Option Document)
  nodes_nodup : ∀ nodeIds, ((nodes nodeIds).map Prod.fst).Nodup
  newId : List String → String
  newId_notMem : ∀ ids, newId ids ∉ ids
  issueUrl : ℕ → String

/-- The links of the file and the repository, the file, and the repository with its latest issue
first. -/
structure World where
  db : State
  file : FigmaFile
  repo : List RepoIssue

/-- The file with one more comment. -/
def FigmaFile.post (sv : Services) (file : FigmaFile) (message : String)
    (nodeId : Option String) : FigmaFile where
  comments := file.comments ++
    [{ id := some (sv.newId (file.comments.filterMap Comment.id)), message := some message,
       nodeId := if truthy nodeId then nodeId else none }]
  ids_nodup := by
    rw [List.filterMap_append, List.nodup_append]
    refine ⟨file.ids_nodup, by simp, ?_⟩
    intro a ha b hb heq
    simp only [List.filterMap_cons, List.filterMap_nil, List.mem_singleton] at hb
    exact sv.newId_notMem _ (hb ▸ heq ▸ ha)

/-- A new issue has a number that is not in use. -/
def newIssue (sv : Services) (repo : List RepoIssue) (title body : String) : RepoIssue where
  number := (repo.map RepoIssue.number).foldr max 0 + 1
  htmlUrl := sv.issueUrl ((repo.map RepoIssue.number).foldr max 0 + 1)
  title := title
  body := some body
  state := "open"
  pullRequest := false
  number_pos := Nat.succ_pos _

/-- `list_issues` and `find_issue_by_marker`: the latest hundred are searched. -/
def findIssueByMarker (repo : List RepoIssue) (marker : String) : Option RepoIssue :=
  ((repo.take 100).filter fun x ↦ !x.pullRequest).find? fun x ↦ contains marker (orElse x.body "")

/-! ## Calls -/

/-- The calls of both directions. -/
inductive Call
  /-- A call of `sync_figma_to_github`, or a call that both directions make. -/
  | base (op : Cmd)
  /-- The links of the file and the repository. -/
  | allLinks
  | createComment (message : String) (nodeId : Option String)
  /-- `link.status = 'synced'` and `link.conflict_reason = None`. -/
  | setSynced (id : ℕ)

abbrev Call.Ans : Call → Type
  | base op => op.Ans
  | allLinks => List Link
  | createComment _ _ => Option String
  | setSynced _ => Unit

/-- A link that is in step. -/
def Link.synced (link : Link) : Link :=
  { link with data := { link.data with status := "synced", conflictReason := none } }

/-- What a call of the first direction does and answers. -/
def performBase (cfg : Config) (sv : Services) : (op : Cmd) → World → World × op.Ans
  | .getComments, w => (w, w.file.comments)
  | .getNodes nodeIds, w => (w, sv.nodes nodeIds)
  | .findLink item, w => (w, w.db.session.find? (·.item = item))
  | .findIssueByMarker item, w =>
    (w, (findIssueByMarker w.repo (buildMarker cfg.fileKey item)).map RepoIssue.issue)
  | .postIssue _ _ title body, w =>
    ({ w with repo := newIssue sv w.repo title body :: w.repo },
      (newIssue sv w.repo title body).issue)
  | .flush id item syncKind data, w =>
    ({ w with db := (w.db.flush id item syncKind data).1 }, (w.db.flush id item syncKind data).2)
  | .commit, w => ({ w with db := { w.db with links := w.db.session } }, ())

def performCall (cfg : Config) (sv : Services) : (op : Call) → World → World × op.Ans
  | .base op, w => performBase cfg sv op w
  | .allLinks, w => (w, w.db.session)
  | .createComment message nodeId, w =>
    ({ w with file := w.file.post sv message nodeId },
      some (sv.newId (w.file.comments.filterMap Comment.id)))
  | .setSynced id, w =>
    ({ w with db := { w.db with
        session := Table.update Link.id id Link.synced w.db.session } }, ())

/-- A call fails before it takes effect, or it is answered. A session that ends without a commit is
rolled back. -/
def world (cfg : Config) (sv : Services) : Machine Call.Ans Error World (Option Error) where
  exec _ op failure w :=
    match failure with
    | none => ((performCall cfg sv op w).1, .ok (performCall cfg sv op w).2)
    | some x => (w, .error x)
  close _ w := { w with db := { w.db with session := w.db.links } }

abbrev Sync := Program Call.Ans Error

def ask (op : Call) : Sync op.Ans := .perform op

/-! ## GitHub to Figma -/

/-- A link as `as_dict` tells it: the first direction tells the item, the second one the id. -/
inductive Reported
  | toGithub (link : ResultLink)
  | toFigma (id : ℕ) (githubIssueNumber : Option ℕ)

/-- `SyncResult`, with the links of both directions. -/
structure Report where
  created : ℕ := 0
  updated : ℕ := 0
  skipped : ℕ := 0
  conflicts : ℕ := 0
  warnings : List String := []
  links : List Reported := []

def SyncResult.report (result : SyncResult) : Report :=
  { created := result.created
    updated := result.updated
    skipped := result.skipped
    conflicts := result.conflicts
    warnings := result.warnings
    links := result.links.map .toGithub }

/-- `comment.get('message') or comment.get('text') or ''`. -/
def commentText (comment : Comment) : String := orElse comment.message (orElse comment.text "")

/-- The comment about the issue of a link. -/
def backMessage (number : ℕ) (url : Option String) : String :=
  strip (reqsysFigmaBackPrefix ++ "GitHub #" ++ toString number ++ " atualizado: " ++ orElse url "")

/-- The comments of the file, which are asked for once. -/
def commentsByFile (comments : Option (List Comment)) : Sync (Except Error (List Comment)) :=
  match comments with
  | some comments => return .ok comments
  | none => (ask (.base .getComments)).attempt

def Report.tell (result : Report) (link : Link) : Report :=
  { result with links := result.links ++ [.toFigma link.id link.data.githubIssueNumber] }

/-- The comment of a link with an issue, among the comments that are known. -/
def writeBack (link : Link) (number : ℕ) (comments : List Comment) (result : Report) :
    Sync (Report × Option (List Comment)) := do
  let message := backMessage number link.data.githubIssueUrl
  if comments.any fun comment ↦ strip (commentText comment) = message then do
    ask (.setSynced link.id)
    return ({ result with skipped := result.skipped + 1 }.tell link, some comments)
  else
    match ← (ask (.createComment message link.item.nodeId)).attempt with
    | .error exc =>
      return ({ result with warnings := result.warnings ++ [exc.text] }, some comments)
    | .ok id => do
      ask (.setSynced link.id)
      let known : Comment := {
        id := id
        message := some message
        nodeId := if truthy link.item.nodeId then link.item.nodeId else none }
      return ({ result with updated := result.updated + 1 }.tell link, some (comments ++ [known]))

/-- One link of `sync_github_to_figma`. -/
def syncOneToFigma (acc : Report × Option (List Comment)) (link : Link) :
    Sync (Report × Option (List Comment)) := do
  match link.data.githubIssueNumber.filter (· ≠ 0) with
  | none => return ({ acc.1 with skipped := acc.1.skipped + 1 }, acc.2)
  | some number =>
    match ← commentsByFile acc.2 with
    | .error exc => return ({ acc.1 with warnings := acc.1.warnings ++ [exc.text] }, acc.2)
    | .ok comments => writeBack link number comments acc.1

/-- `sync_github_to_figma`. -/
def syncGithubToFigma : Sync Report := do
  let links ← ask .allLinks
  let acc ← links.foldlM syncOneToFigma ({}, none)
  ask (.base .commit)
  return acc.1

/-- A program of the first direction. -/
def lift {α : Type} (p : Process α) : Sync α := p.embed Call.base fun _ r ↦ r

/-- `sync_bidirectional`. -/
def syncBidirectional (cfg : Config) (request : Request) : Sync Report := do
  let first ← lift (syncFigmaToGithub cfg request)
  let second ← syncGithubToFigma
  return {
    created := first.report.created + second.created
    updated := first.report.updated + second.updated
    skipped := first.report.skipped + second.skipped
    conflicts := first.report.conflicts + second.conflicts
    warnings := first.report.warnings ++ second.warnings
    links := first.report.links ++ second.links }

end FigmaGithub

end ReqSys
