import CpuUsage.Api
import CpuUsage.Application.Basic

/-! The catalog of the platform: organizations, their spaces and the applications deployed there. Listings come in
pages, each linking to the next. -/
namespace CpuUsage
open Decoder

structure Catalog where
  api : Api
  org : String
  space : String
  username : String
  deriving DecidableEq

namespace Catalog

structure Resource where
  guid : String
  name : String
  deriving DecidableEq

structure Page where
  next : Option String
  resources : List Resource
  deriving DecidableEq

def resource : Decoder Resource := fun doc => do
  let [guid, name] ← fields ["guid", "name"] doc | none
  return ⟨← required string guid, ← required string name⟩

def link : Decoder String := fun doc => do
  let [href] ← fields ["href"] doc | none
  required string href

def nextLink : Decoder (Option String) := fun doc => do
  let [next] ← fields ["next"] doc | none
  optional link next

def page : Decoder Page := fun doc => do
  let [pagination, resources] ← fields ["pagination", "resources"] doc | none
  return ⟨← withDefault none nextLink pagination, ← withDefault [] (list resource) resources⟩

/-- The resources of a page and of those it leads to, `pages` at most. -/
def listFrom (api : Api) : Nat → Page → Session Wire (List Resource)
  | _, ⟨none, resources⟩ => pure resources
  | 0, ⟨some _, _⟩ => Session.fail .unanswered
  | pages + 1, ⟨some next, resources⟩ => do
    let following ← api.follow next page
    let others ← listFrom api pages following
    return resources ++ others

/-- All pages of a listing. Every page takes a reply, so there are no more pages than replies. -/
def list (api : Api) (path : String) (ps : Parameters) : Session Wire (List Resource) := do
  let first ← api.get path ps page
  fun w => listFrom api (w.replies.length + 1) first w

def guidOf (missing : PlatformError) (found : List Resource) : Session Wire String :=
  match found with
  | first :: _ => pure first.guid
  | [] => Session.fail (.platform missing)

def orgGuid (c : Catalog) : Session Wire String := do
  let orgs ← list c.api "v3/organizations" [("names", c.org)]
  guidOf (.orgNotFound c.org) orgs

def spaceGuid (c : Catalog) (org : String) : Session Wire String := do
  let spaces ← list c.api "v3/spaces" [("names", c.space), ("organization_guids", org)]
  guidOf (.spaceNotFound c.space) spaces

def deployments (c : Catalog) : List Resource → Session Wire (List Space)
  | [] => pure []
  | space :: rest => do
    let apps ← list c.api "v3/apps" [("space_guids", space.guid)]
    let others ← deployments c rest
    return ⟨space.name, apps.map fun a => .new a.name a.guid⟩ :: others

def spaces (c : Catalog) : Session Wire (List Space) := do
  let org ← c.orgGuid
  let found ← list c.api "v3/spaces" [("organization_guids", org)]
  c.deployments found

def application (c : Catalog) (name : String) : Session Wire Application := do
  let org ← c.orgGuid
  let space ← c.spaceGuid org
  let found ← list c.api "v3/apps" [("names", name), ("space_guids", space)]
  match found with
  | first :: _ => pure (.new first.name first.guid)
  | [] => Session.fail (.platform (.applicationNotFound name))

end Catalog
end CpuUsage
