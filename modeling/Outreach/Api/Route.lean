import Outreach.Form.Encoding

/-!
Routes: which operation a method and a path ask for. The first route that fits both is taken; where
routes fit the path alone, the method of the first of them is named; and a path that would fit
without its last slashes is sent on to the one without.
-/

namespace Outreach.Api

/-- What signed-in users can ask for. -/
inductive Task where
  | me
  | listCustomers | createCustomer | importCustomers | getCustomer | updateCustomer
  | deleteCustomer
  | listOrders | createOrder | getOrder
  | listSegments | createSegment | previewSegment | getSegment | updateSegment | deleteSegment
  | recomputeSegment | evaluateSegment
  | listCampaigns | createCampaign | campaignHistory | getCampaign | updateCampaign
  | deleteCampaign | sendCampaign | campaignReceipts
  | recordReceipt
deriving DecidableEq, Repr

/-- What anybody can ask for, and the tasks of signed-in users. -/
inductive Operation where
  | consent | signIn | signOut | root | health
  | task (task : Task)
deriving DecidableEq, Repr

/-- One step of a path. -/
inductive Step where
  | word (text : String)
  | parameter (name : String)
deriving DecidableEq, Repr

structure Route where
  method : String
  steps : List Step
  operation : Operation
deriving DecidableEq, Repr

def authRoute (steps : List Step) (operation : Operation) : Route :=
  ⟨"GET", .word "auth" :: steps, operation⟩

def apiRoute (method : String) (steps : List Step) (task : Task) : Route :=
  ⟨method, .word "api" :: steps, .task task⟩

namespace Route

def customers : List Step := [.word "customers"]

def customer : List Step := [.word "customers", .parameter "customer_id"]

def orders : List Step := [.word "orders"]

def order : List Step := [.word "orders", .parameter "order_id"]

def segments : List Step := [.word "segments"]

def segment : List Step := [.word "segments", .parameter "segment_id"]

def campaigns : List Step := [.word "campaigns"]

def campaign : List Step := [.word "campaigns", .parameter "campaign_id"]

def message : List Step := [.word "communication-logs", .parameter "log_id"]

/-- All routes, in the order in which they are tried. -/
def all : List Route := [
  authRoute [.word "google"] .consent,
  authRoute [.word "google", .word "callback"] .signIn,
  authRoute [.word "me"] (.task .me),
  authRoute [.word "logout"] .signOut,
  apiRoute "GET" customers .listCustomers,
  apiRoute "POST" customers .createCustomer,
  apiRoute "POST" (customers ++ [.word "bulk"]) .importCustomers,
  apiRoute "GET" customer .getCustomer,
  apiRoute "PUT" customer .updateCustomer,
  apiRoute "DELETE" customer .deleteCustomer,
  apiRoute "GET" orders .listOrders,
  apiRoute "POST" orders .createOrder,
  apiRoute "GET" order .getOrder,
  apiRoute "GET" segments .listSegments,
  apiRoute "POST" segments .createSegment,
  apiRoute "POST" (segments ++ [.word "preview"]) .previewSegment,
  apiRoute "GET" segment .getSegment,
  apiRoute "PUT" segment .updateSegment,
  apiRoute "DELETE" segment .deleteSegment,
  apiRoute "POST" (segment ++ [.word "recompute"]) .recomputeSegment,
  apiRoute "POST" (segment ++ [.word "evaluate", .parameter "customer_id"]) .evaluateSegment,
  apiRoute "GET" campaigns .listCampaigns,
  apiRoute "POST" campaigns .createCampaign,
  apiRoute "GET" (campaigns ++ [.word "history"]) .campaignHistory,
  apiRoute "GET" campaign .getCampaign,
  apiRoute "PUT" campaign .updateCampaign,
  apiRoute "DELETE" campaign .deleteCampaign,
  apiRoute "POST" (campaign ++ [.word "send"]) .sendCampaign,
  apiRoute "GET" (campaign ++ [.word "receipts"]) .campaignReceipts,
  apiRoute "POST" (message ++ [.word "receipt"]) .recordReceipt,
  ⟨"GET", [.word ""], .root⟩,
  ⟨"GET", [.word "health"], .health⟩]

end Route

/-- The values that a path gives to the parameters among some steps. -/
abbrev Arguments := List (String × String)

/-- Follows steps along a path. -/
def follow? : List Step → List String → Option Arguments
  | [], [] => some []
  | .word text :: steps, part :: rest => if part = text then follow? steps rest else none
  | .parameter name :: steps, part :: rest =>
      if part.isEmpty then none else (follow? steps rest).map ((name, part) :: ·)
  | _, _ => none

/-- The parts of a path. -/
def pathParts (path : String) : List String :=
  ((Form.splitAt '/' path.toList).drop 1).map String.ofList

/-- A route whose path fits, with its arguments. -/
structure Fit where
  route : Route
  arguments : Arguments
deriving Repr

/-- The routes whose paths fit. -/
def fits (path : String) : List Fit :=
  Route.all.filterMap fun route =>
    (follow? route.steps (pathParts path)).map fun arguments => ⟨route, arguments⟩

/-- What a request asks for. -/
inductive Routing where
  | found (operation : Operation) (arguments : Arguments)
  | wrongMethod (allowed : String)
  /-- Another path is meant. -/
  | elsewhere (path : String)
  | unknown
deriving Repr

/-- A path without the slashes at its end. -/
def withoutLastSlashes (path : String) : String :=
  String.ofList (path.toList.reverse.dropWhile (· = '/')).reverse

/-- The routing of a path that no route fits. -/
def misfit (path : String) : Routing :=
  let other := withoutLastSlashes path
  if other = path ∨ fits other = [] then .unknown else .elsewhere other

def routing (method path : String) : Routing :=
  match (fits path).find? fun fit => fit.route.method = method with
  | some fit => .found fit.route.operation fit.arguments
  | none =>
      match fits path with
      | fit :: _ => .wrongMethod fit.route.method
      | [] => misfit path

end Outreach.Api
