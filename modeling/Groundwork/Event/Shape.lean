/-
What the payloads of events are expected to hold.
-/
import Groundwork.Json.Shape

set_option autoImplicit false

namespace Groundwork.Event

open Json.Shape

/-- Fields of one shape. -/
def each (shape : Json.Shape) (names : List String) : List (String × Json.Shape) :=
  names.map fun name => (name, shape)

/-- An identifier or another number. -/
def long : Json.Shape := nat UInt64.size

/-- A count. -/
def count : Json.Shape := nat UInt32.size

/-- A user. -/
def userShape : Json.Shape :=
  record <| [("login", text), ("id", long), ("node_id", text), ("avatar_url", url),
      ("gravatar_id", text)]
    ++ each url ["url", "html_url", "followers_url", "following_url", "gists_url", "starred_url",
      "subscriptions_url", "organizations_url", "repos_url", "events_url", "received_events_url"]
    ++ [("type", text), ("site_admin", flag)]
    ++ each (optional text) ["name", "patch_url", "email"]

/-- A repository. -/
def repositoryShape : Json.Shape :=
  record <| [("id", long), ("node_id", optional text), ("name", text), ("full_name", optional text),
      ("owner", optional userShape), ("private", optional flag), ("html_url", optional url),
      ("description", optional text), ("fork", optional flag), ("url", url)]
    ++ each (optional url) ["archive_url", "assignees_url", "blobs_url", "branches_url",
      "collaborators_url", "comments_url", "commits_url", "compare_url", "contents_url",
      "contributors_url", "deployments_url", "downloads_url", "events_url", "forks_url",
      "git_commits_url", "git_refs_url", "git_tags_url", "git_url", "issue_comment_url",
      "issue_events_url", "issues_url", "keys_url", "labels_url", "languages_url", "merges_url",
      "milestones_url", "notifications_url", "pulls_url", "releases_url", "stargazers_url",
      "statuses_url", "subscribers_url", "subscription_url", "tags_url", "teams_url", "trees_url",
      "clone_url", "hooks_url", "svn_url"]
    ++ each (optional text) ["ssh_url", "mirror_url", "homepage", "default_branch", "visibility"]
    ++ each (optional count) ["forks_count", "stargazers_count", "watchers_count", "size",
      "open_issues_count"]
    ++ each (optional flag) ["is_template", "has_issues", "has_projects", "has_wiki", "has_pages",
      "has_downloads", "archived", "disabled"]
    ++ [("topics", optional (list text))]

/-- A branch of a pull request. -/
def branchShape : Json.Shape :=
  record [("label", optional text), ("ref", text), ("sha", text), ("user", optional userShape),
    ("repo", optional repositoryShape)]

/-- A label. -/
def labelShape : Json.Shape :=
  record [("id", long), ("node_id", text), ("url", url), ("name", text),
    ("description", optional text), ("color", text), ("default", flag)]

/-- Whether an issue is open. -/
def openness : Json.Shape := word ["open", "closed"]

/-- A pull request. -/
def pullRequestShape : Json.Shape :=
  record <| [("url", text), ("id", long), ("node_id", optional text)]
    ++ each (optional url) ["html_url", "diff_url", "patch_url", "issue_url", "commits_url",
      "review_comments_url", "review_comment_url", "comments_url", "statuses_url"]
    ++ [("number", long), ("state", optional openness), ("title", optional text),
      ("user", optional userShape)]
    ++ each (optional text) ["body", "body_text", "body_html", "active_lock_reason",
      "merge_commit_sha"]
    ++ [("labels", optional (list labelShape))]
    ++ each (optional time) ["created_at", "updated_at", "closed_at", "merged_at"]
    ++ each (optional userShape) ["merged_by", "assignee"]
    ++ each (optional (list userShape)) ["assignees", "requested_reviewers"]
    ++ each (optional flag) ["mergeable", "merged", "rebaseable", "draft", "maintainer_can_modify"]
    ++ [("head", branchShape), ("base", branchShape), ("author_association", optional text)]
    ++ each (optional long) ["additions", "deletions", "changed_files", "commits",
      "review_comments", "comments"]

/-- The addresses of the pull request that an issue is. -/
def linkShape : Json.Shape :=
  record (each url ["url", "html_url", "diff_url", "patch_url"])

/-- An issue. -/
def issueShape : Json.Shape :=
  record <| [("id", long), ("node_id", text)]
    ++ each url ["url", "repository_url", "labels_url", "comments_url", "events_url", "html_url"]
    ++ [("number", long), ("state", openness), ("title", text), ("body", optional text),
      ("user", userShape), ("labels", list labelShape), ("assignee", optional userShape),
      ("assignees", list userShape), ("author_association", optional text), ("locked", flag),
      ("active_lock_reason", optional text), ("comments", count),
      ("pull_request", optional linkShape), ("closed_at", optional time), ("created_at", time),
      ("updated_at", time)]

/-- A comment. -/
def commentShape : Json.Shape :=
  record [("id", long), ("node_id", text), ("url", url), ("html_url", url),
    ("issue_url", optional url), ("body", optional text), ("body_text", optional text),
    ("body_html", optional text), ("author_association", optional text), ("user", userShape),
    ("created_at", time), ("updated_at", optional time)]

/-- What can happen to a pull request. -/
def pullRequestActions : List String := [
  "assigned", "auto_merge_disabled", "auto_merge_enabled", "closed", "converted_to_draft",
  "demilestoned", "dequeued", "edited", "enqueued", "labeled", "locked", "milestoned", "opened",
  "ready_for_review", "reopened", "review_request_removed", "review_requested", "synchronize",
  "unassigned", "unlabeled", "unlocked"]

/-- What can happen to a comment. -/
def commentActions : List String := ["created", "deleted", "edited"]

/-- What an event about a pull request says, besides where it happened. -/
def pullRequestPayload : Json.Shape :=
  record [("action", word pullRequestActions), ("number", long), ("pull_request", pullRequestShape),
    ("assignee", optional userShape), ("after", optional text), ("before", optional text)]

/-- What an event about a comment says, besides where it happened. -/
def commentPayload : Json.Shape :=
  record [("action", word commentActions), ("comment", commentShape), ("issue", issueShape)]

end Groundwork.Event
