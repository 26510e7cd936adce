import CpuUsage.Proofs.Api
import CpuUsage.Proofs.Request

/-! Listings over any number of pages. A listing is the resources of all its pages in order, wherever pages are empty, and
costs one request for each page: the first below the base, every other one to where the page before it links. So all that
is taken from listings, the first resource above all, is taken from the whole of them. -/
namespace CpuUsage

namespace Url

/-- What stands in front of the last segment. -/
def folder (u : Url) : List (List Char) :=
  match u.path with
  | .segments done => done.dropLast
  | .bare _ => []

/-- Another path, and no query or fragment. -/
def withPath (u : Url) (path : List (List Char)) : Url :=
  { u with path := .segments path, query := none, fragment := none }

end Url

namespace Catalog

inductive Listing where
  | organizations
  | spaces
  | apps
  deriving DecidableEq

namespace Listing

def name : Listing → String
  | .organizations => "organizations"
  | .spaces => "spaces"
  | .apps => "apps"

def path : Listing → String
  | .organizations => "v3/organizations"
  | .spaces => "v3/spaces"
  | .apps => "v3/apps"

end Listing

/-- The listing below the folder of the base, with the parameters as its query. -/
def listingUrl (base : Url) (l : Listing) (ps : Parameters) : Url :=
  { base.withPath (base.folder ++ [['v', '3'], l.name.toList]) with query := some ps.encode.toList }

theorem listing_parts (l : Listing) :
    (Url.splitTail true (Url.clean l.path)).main = ['v', '3', '/'] ++ l.name.toList ∧
      (Url.splitTail true (Url.clean l.path)).query = none ∧ (Url.splitTail true (Url.clean l.path)).fragment = none := by
  cases l <;> decide +kernel

/-- The segments of such a path are plain, so they stand behind the folder as they are. -/
theorem listing_segments (scheme : List Char) (web : Url.isFileScheme scheme = false) (done : List (List Char))
    (l : Listing) :
    Url.pathSegments scheme done (['v', '3', '/'] ++ l.name.toList) = done ++ [['v', '3'], l.name.toList] := by
  have split : splitParts (Url.isSeparator (Url.isSpecialScheme scheme)) (['v', '3', '/'] ++ l.name.toList) =
      [['v', '3'], l.name.toList] := by
    cases Url.isSpecialScheme scheme <;> cases l <;> decide +kernel
  have version : Url.dots? ['v', '3'] = none ∧ Url.settleSegment false ['v', '3'] = ['v', '3'] := by decide +kernel
  have named : Url.dots? l.name.toList = none ∧ Url.settleSegment false l.name.toList = l.name.toList := by
    cases l <;> decide +kernel
  have noSlash : Url.isSeparator (Url.isSpecialScheme scheme) 'v' = false := by
    cases Url.isSpecialScheme scheme <;> decide +kernel
  simp only [List.cons_append, List.nil_append] at split
  simp only [Url.pathSegments, web, List.cons_append, List.nil_append, noSlash, Bool.false_eq_true, if_false, split,
    Url.resolveSegments, version, named, Bool.false_and, List.append_assoc]

theorem resolve_listing {base : Url} (http : base.isHttp = true) (hierarchical : base.path.isHierarchical = true)
    (l : Listing) :
    base.resolve l.path = .ok (base.withPath (base.folder ++ [['v', '3'], l.name.toList])) := by
  obtain ⟨special, web⟩ := Url.isSpecialScheme_of_isHttp http
  obtain ⟨main, query, fragment⟩ := listing_parts l
  rw [Url.resolve]
  cases held : base.path with
  | bare text => simp [held, Url.Path.isHierarchical] at hierarchical
  | segments done =>
    simp only [Url.isSpecial, special, main, query, fragment, listing_segments base.scheme web]
    simp [Url.withPath, Url.folder, held]

theorem encode_ne_nil (p : String × String) (ps : Parameters) : (Parameters.encode (p :: ps)).toList ≠ [] := by
  have marked : '=' ∈ (Parameters.encode (p :: ps)).toList := by
    cases ps <;> simp [Parameters.encode, formPair, List.intercalate]
  exact List.ne_nil_of_mem marked

theorem addParameters_withPath (base : Url) (path : List (List Char)) (p : String × String) (ps : Parameters) :
    (base.withPath path).addParameters (p :: ps) =
      { base.withPath path with query := some (Parameters.encode (p :: ps)).toList } :=
  congrArg (fun query => { base.withPath path with query }) (if_neg (encode_ne_nil p ps))

/-- A reply that carries a page. -/
structure PageReply where
  status : Nat
  body : String
  page : Page
  low : 200 ≤ status
  high : status < 300
  decoded : decodeText? Catalog.page body = some page

def PageReply.reply (p : PageReply) : Reply :=
  .answered p.status p.body true

/-- A page that links to another one, where a request can be made. -/
structure LinkedPage extends PageReply where
  link : String
  url : Url
  linked : page.next = some link
  parsed : Url.parse link = .ok url
  http : url.isHttp = true

structure LastPage extends PageReply where
  unlinked : page.next = none

/-- The pages of a listing, each linking to the next. -/
inductive Chain where
  | last (p : LastPage)
  | link (p : LinkedPage) (following : Chain)

namespace Chain

def pages : Chain → List PageReply
  | last p => [p.toPageReply]
  | link p following => p.toPageReply :: following.pages

def links : Chain → List Url
  | last _ => []
  | link p following => p.url :: following.links

def first : Chain → PageReply
  | last p => p.toPageReply
  | link p _ => p.toPageReply

/-- The pages behind the first one. -/
def others : Chain → List PageReply
  | last _ => []
  | link _ following => following.pages

def replies (chain : Chain) : List Reply :=
  chain.pages.map PageReply.reply

def resources (chain : Chain) : List Resource :=
  chain.pages.flatMap fun p => p.page.resources

/-- One request for each page, the first of them to `start`. -/
def requests (chain : Chain) (api : Api) (start : Url) : List Request :=
  (start :: chain.links).map api.request

theorem pages_eq (chain : Chain) : chain.pages = chain.first :: chain.others := by
  cases chain <;> rfl

theorem length_links (chain : Chain) : chain.links.length = chain.others.length := by
  induction chain with
  | last p => rfl
  | link p following ih =>
    rw [links, others, pages_eq, List.length_cons, List.length_cons, ih]

theorem length_requests (chain : Chain) (api : Api) (start : Url) :
    (chain.requests api start).length = chain.pages.length := by
  simp [requests, length_links, pages_eq]

end Chain

theorem PageReply.told (p : PageReply) : p.reply.told Catalog.page = .ok p.page := by
  rw [reply, Reply.told, Api.decodeReply_accepted p.low p.high, p.decoded]

theorem listFrom_unlinked (api : Api) (pages : Nat) {page : Page} (unlinked : page.next = none) :
    listFrom api pages page = pure page.resources := by
  obtain ⟨next, resources⟩ := page
  cases unlinked
  rw [listFrom]

theorem listFrom_linked (api : Api) (pages : Nat) {page : Page} {link : String} (linked : page.next = some link) :
    listFrom api (pages + 1) page = do
      let following ← api.follow link Catalog.page
      let others ← listFrom api pages following
      return page.resources ++ others := by
  obtain ⟨next, resources⟩ := page
  cases linked
  rw [listFrom]

section
variable {api : Api}

theorem follow_run (header : isHeaderValue api.authorization = true) (p : LinkedPage) (next : PageReply)
    (rest : List Reply) (sent : List Request) :
    (api.follow p.link Catalog.page).run ⟨next.reply :: rest, sent⟩ =
      (.ok next.page, ⟨rest, sent ++ [api.request p.url]⟩) := by
  have sends : api.Sends p.url := ⟨p.http, header⟩
  simp only [Api.follow, p.parsed]
  rw [Api.fetch_run sends, next.told]

/-- Behind its first page, a listing takes one reply for each link, and comes to the resources of all pages. -/
theorem listFrom_run (header : isHeaderValue api.authorization = true) (chain : Chain) {pages : Nat}
    (enough : chain.links.length ≤ pages) (rest : List Reply) (sent : List Request) :
    (listFrom api pages chain.first.page).run ⟨chain.others.map PageReply.reply ++ rest, sent⟩ =
      (.ok chain.resources, ⟨rest, sent ++ chain.links.map api.request⟩) := by
  induction chain generalizing pages sent with
  | last p =>
    rw [Chain.first, listFrom_unlinked api pages p.unlinked]
    simp [Chain.others, Chain.resources, Chain.pages, Chain.links]
  | link p following ih =>
    obtain ⟨fewer, rfl⟩ : ∃ fewer, pages = fewer + 1 := ⟨pages - 1, by simp [Chain.links] at enough; omega⟩
    have enoughLater : following.links.length ≤ fewer := by simpa [Chain.links] using enough
    have followed := follow_run header p following.first (following.others.map PageReply.reply ++ rest) sent
    have later := ih enoughLater (sent ++ [api.request p.url])
    rw [Chain.first, listFrom_linked api fewer p.linked, Chain.others, Chain.pages_eq, List.map_cons, List.cons_append,
      Session.run_bind_ok followed, Session.run_bind_ok later, Session.run_pure]
    simp [Chain.resources, Chain.pages, Chain.links]

theorem get_run (reachable : api.Reachable) (l : Listing) (p : String × String) (ps : Parameters) (first : PageReply)
    (rest : List Reply) (sent : List Request) :
    (api.get l.path (p :: ps) Catalog.page).run ⟨first.reply :: rest, sent⟩ =
      (.ok first.page, ⟨rest, sent ++ [api.request (listingUrl api.base l (p :: ps))]⟩) := by
  have sends : api.Sends (listingUrl api.base l (p :: ps)) := ⟨reachable.http, reachable.header⟩
  simp only [Api.get, resolve_listing reachable.http reachable.hierarchical l]
  rw [addParameters_withPath]
  exact (Api.fetch_run sends _ _ _ _).trans (by rw [first.told])

/-- A listing is the resources of all its pages, for one request for each page. -/
theorem list_run (reachable : api.Reachable) (l : Listing) (p : String × String) (ps : Parameters) (chain : Chain)
    (rest : List Reply) (sent : List Request) :
    (list api l.path (p :: ps)).run ⟨chain.replies ++ rest, sent⟩ =
      (.ok chain.resources, ⟨rest, sent ++ chain.requests api (listingUrl api.base l (p :: ps))⟩) := by
  have got := get_run reachable l p ps chain.first (chain.others.map PageReply.reply ++ rest) sent
  have enough : chain.links.length ≤ (chain.others.map PageReply.reply ++ rest).length + 1 := by
    rw [chain.length_links, List.length_append, List.length_map]
    omega
  rw [Chain.replies, Chain.pages_eq, List.map_cons, List.cons_append, list]
  refine (Session.run_bind_ok got).trans ((listFrom_run reachable.header chain enough rest _).trans ?_)
  simp [Chain.requests]

end

/-- The applications of a space as a listing tells them: nothing is known of their instances. -/
def spaceOf (space : Resource) (apps : Chain) : Space :=
  ⟨space.name, apps.resources.map fun a => .new a.name a.guid⟩

section
variable (c : Catalog)

/-- The requests for the organization, the spaces of an organization, and the applications of a space. -/
def orgRequests (orgs : Chain) : List Request :=
  orgs.requests c.api (listingUrl c.api.base .organizations [("names", c.org)])

def spacesRequests (org : Resource) (spaces : Chain) : List Request :=
  spaces.requests c.api (listingUrl c.api.base .spaces [("organization_guids", org.guid)])

def appsRequests (space : Resource) (apps : Chain) : List Request :=
  apps.requests c.api (listingUrl c.api.base .apps [("space_guids", space.guid)])

def spaceRequests (org : Resource) (spaces : Chain) : List Request :=
  spaces.requests c.api (listingUrl c.api.base .spaces [("names", c.space), ("organization_guids", org.guid)])

def appRequests (name : String) (space : Resource) (apps : Chain) : List Request :=
  apps.requests c.api (listingUrl c.api.base .apps [("names", name), ("space_guids", space.guid)])

variable {c} (reachable : c.api.Reachable)
include reachable

theorem orgGuid_run (orgs : Chain) (rest : List Reply) (sent : List Request) :
    c.orgGuid.run ⟨orgs.replies ++ rest, sent⟩ =
      (match orgs.resources with
        | [] => .error (.platform (.orgNotFound c.org))
        | org :: _ => .ok org.guid, ⟨rest, sent ++ c.orgRequests orgs⟩) := by
  refine (Session.run_bind_ok (list_run reachable .organizations ("names", c.org) [] orgs rest sent)).trans ?_
  cases orgs.resources <;> rfl

theorem spaceGuid_run (org : Resource) (spaces : Chain) (rest : List Reply) (sent : List Request) :
    (c.spaceGuid org.guid).run ⟨spaces.replies ++ rest, sent⟩ =
      (match spaces.resources with
        | [] => .error (.platform (.spaceNotFound c.space))
        | space :: _ => .ok space.guid, ⟨rest, sent ++ c.spaceRequests org spaces⟩) := by
  have listed := list_run reachable .spaces ("names", c.space) [("organization_guids", org.guid)] spaces rest sent
  refine (Session.run_bind_ok listed).trans ?_
  cases spaces.resources <;> rfl

/-- Space by space, each with the pages of its own applications. -/
theorem deployments_run (spaces : List Resource) (apps : List Chain) (each : apps.length = spaces.length)
    (rest : List Reply) (sent : List Request) :
    (c.deployments spaces).run ⟨apps.flatMap Chain.replies ++ rest, sent⟩ =
      (.ok (List.zipWith spaceOf spaces apps), ⟨rest, sent ++ (List.zipWith c.appsRequests spaces apps).flatten⟩) := by
  induction spaces generalizing apps sent with
  | nil =>
    cases List.length_eq_zero_iff.mp each
    simp [deployments]
  | cons space spaces ih =>
    cases apps with
    | nil => contradiction
    | cons first apps =>
      have listed :=
        list_run reachable .apps ("space_guids", space.guid) [] first (apps.flatMap Chain.replies ++ rest) sent
      have later := ih apps (Nat.succ.inj each) (sent ++ c.appsRequests space first)
      rw [List.flatMap_cons, List.append_assoc, deployments]
      refine (Session.run_bind_ok listed).trans ((Session.run_bind_ok later).trans ?_)
      rw [Session.run_pure, List.append_assoc]
      rfl

end

/-- Listings lose and repeat nothing across pages. -/
structure ListsWhole (c : Catalog) : Prop where
  /-- A listing of the folder of the base, by its parameters. -/
  target : ∀ l p ps, (listingUrl c.api.base l (p :: ps)).target =
    String.ofList ((c.api.base.folder.flatMap ('/' :: ·) ++ ['/', 'v', '3', '/'] ++ l.name.toList) ++
      '?' :: (Parameters.encode (p :: ps)).toList)
  /-- There are as many requests as pages. -/
  onePerPage : ∀ (chain : Chain) start, (chain.requests c.api start).length = chain.pages.length
  /-- The spaces of the first organization of all pages, each with its own applications of all pages. -/
  spaces : ∀ (orgs spaces : Chain) (apps : List Chain), apps.length = spaces.resources.length → ∀ rest sent,
    c.spaces.run ⟨orgs.replies ++ (spaces.replies ++ (apps.flatMap Chain.replies ++ rest)), sent⟩ =
      match orgs.resources with
      | [] => (.error (.platform (.orgNotFound c.org)),
          ⟨spaces.replies ++ (apps.flatMap Chain.replies ++ rest), sent ++ c.orgRequests orgs⟩)
      | org :: _ => (.ok (List.zipWith spaceOf spaces.resources apps),
          ⟨rest, sent ++ c.orgRequests orgs ++ c.spacesRequests org spaces ++
            (List.zipWith c.appsRequests spaces.resources apps).flatten⟩)
  /-- The first application of a name in the first space of the first organization, each of all pages. -/
  application : ∀ name (orgs spaces apps : Chain) rest sent,
    (c.application name).run ⟨orgs.replies ++ (spaces.replies ++ (apps.replies ++ rest)), sent⟩ =
      match orgs.resources, spaces.resources, apps.resources with
      | [], _, _ => (.error (.platform (.orgNotFound c.org)),
          ⟨spaces.replies ++ (apps.replies ++ rest), sent ++ c.orgRequests orgs⟩)
      | org :: _, [], _ => (.error (.platform (.spaceNotFound c.space)),
          ⟨apps.replies ++ rest, sent ++ c.orgRequests orgs ++ c.spaceRequests org spaces⟩)
      | org :: _, space :: _, [] => (.error (.platform (.applicationNotFound name)),
          ⟨rest, sent ++ c.orgRequests orgs ++ c.spaceRequests org spaces ++ c.appRequests name space apps⟩)
      | org :: _, space :: _, app :: _ => (.ok (.new app.name app.guid),
          ⟨rest, sent ++ c.orgRequests orgs ++ c.spaceRequests org spaces ++ c.appRequests name space apps⟩)

theorem target_listingUrl (base : Url) (l : Listing) (ps : Parameters) :
    (listingUrl base l ps).target =
      String.ofList ((base.folder.flatMap ('/' :: ·) ++ ['/', 'v', '3', '/'] ++ l.name.toList) ++
        '?' :: ps.encode.toList) := by
  simp [listingUrl, Url.withPath, Url.target, Url.Path.text, Url.queryText]

theorem lists_whole {c : Catalog} (reachable : c.api.Reachable) : c.ListsWhole where
  target := fun l p ps => target_listingUrl c.api.base l (p :: ps)
  onePerPage := fun chain start => chain.length_requests c.api start
  spaces := by
    intro orgs spaces apps each rest sent
    have named := orgGuid_run reachable orgs (spaces.replies ++ (apps.flatMap Chain.replies ++ rest)) sent
    cases found : orgs.resources with
    | nil =>
      rw [found] at named
      exact Session.run_bind_error named
    | cons org others =>
      rw [found] at named
      have listed := list_run reachable .spaces ("organization_guids", org.guid) [] spaces
        (apps.flatMap Chain.replies ++ rest) (sent ++ c.orgRequests orgs)
      exact (Session.run_bind_ok named).trans
        ((Session.run_bind_ok listed).trans (deployments_run reachable spaces.resources apps each rest _))
  application := by
    intro name orgs spaces apps rest sent
    have orgNamed := orgGuid_run reachable orgs (spaces.replies ++ (apps.replies ++ rest)) sent
    cases orgsFound : orgs.resources with
    | nil =>
      rw [orgsFound] at orgNamed
      exact Session.run_bind_error orgNamed
    | cons org otherOrgs =>
      rw [orgsFound] at orgNamed
      have spaceNamed := spaceGuid_run reachable org spaces (apps.replies ++ rest) (sent ++ c.orgRequests orgs)
      cases spacesFound : spaces.resources with
      | nil =>
        rw [spacesFound] at spaceNamed
        exact (Session.run_bind_ok orgNamed).trans (Session.run_bind_error spaceNamed)
      | cons space otherSpaces =>
        rw [spacesFound] at spaceNamed
        have listed := list_run reachable .apps ("names", name) [("space_guids", space.guid)] apps rest
          (sent ++ c.orgRequests orgs ++ c.spaceRequests org spaces)
        refine (Session.run_bind_ok orgNamed).trans
          ((Session.run_bind_ok spaceNamed).trans ((Session.run_bind_ok listed).trans ?_))
        cases apps.resources <;> rfl

/-! A listing of organizations whose first page is empty. -/
namespace EmptyFirstPage

def catalog : Catalog :=
  ⟨Api.new ⟨"http".toList, some ⟨[], [], .name ['a'], none⟩, .segments [[]], none, none⟩ "t", "o", "s", "me"⟩

def nextUrl : Url :=
  ⟨"http".toList, some ⟨[], [], .name ['a'], none⟩, .segments [['o']], some "page=2".toList, none⟩

theorem nextUrl_parsed : Url.parse "http://a/o?page=2" = .ok nextUrl := by
  have told : (Url.parse "http://a/o?page=2").toOption = some nextUrl := by decide +kernel
  cases parsed : Url.parse "http://a/o?page=2" with
  | error e => simp [parsed, Except.toOption] at told
  | ok u => simpa [parsed, Except.toOption] using told

def listedOrgs : Chain :=
  .link
    { status := 200
      body := "\x7b\"pagination\":\x7b\"next\":\x7b\"href\":\"http://a/o?page=2\"\x7d\x7d,\"resources\":[]\x7d"
      page := ⟨some "http://a/o?page=2", []⟩, low := by decide, high := by decide, decoded := by decide +kernel
      link := "http://a/o?page=2", url := nextUrl, linked := rfl, parsed := nextUrl_parsed, http := by decide }
    (.last
      { status := 200
        body := "\x7b\"resources\":[\x7b\"guid\":\"g\",\"name\":\"o\"\x7d]\x7d"
        page := ⟨none, [⟨"g", "o"⟩]⟩
        low := by decide, high := by decide, decoded := by decide +kernel, unlinked := rfl })

def listedSpaces : Chain :=
  .last
    { status := 200
      body := "\x7b\"resources\":[\x7b\"guid\":\"s1\",\"name\":\"dev\"\x7d]\x7d"
      page := ⟨none, [⟨"s1", "dev"⟩]⟩
      low := by decide, high := by decide, decoded := by decide +kernel, unlinked := rfl }

def listedApps : Chain :=
  .last
    { status := 200
      body := "\x7b\"resources\":[\x7b\"guid\":\"a1\",\"name\":\"web\"\x7d]\x7d"
      page := ⟨none, [⟨"a1", "web"⟩]⟩
      low := by decide, high := by decide, decoded := by decide +kernel, unlinked := rfl }

end EmptyFirstPage

open EmptyFirstPage in
theorem lists_whole_emptyFirstPage :
    catalog.api.Reachable ∧ ∃ w',
      catalog.spaces.run (.new (listedOrgs.replies ++ (listedSpaces.replies ++ listedApps.replies))) =
        (.ok [⟨"dev", [.new "web" "a1"]⟩], w') ∧
      w'.replies = [] ∧
      w'.sent.map (fun r => r.url.text) =
        ["http://a/v3/organizations?names=o", "http://a/o?page=2", "http://a/v3/spaces?organization_guids=g",
          "http://a/v3/apps?space_guids=s1"] := by
  have reachable : catalog.api.Reachable := by decide +kernel
  have run := (lists_whole reachable).spaces listedOrgs listedSpaces [listedApps] rfl [] []
  exact ⟨reachable, _, run, rfl, by decide +kernel⟩

end Catalog
end CpuUsage
