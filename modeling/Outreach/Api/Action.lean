import Outreach.Api.Route
import Outreach.Campaign.Sending
import Outreach.Customer.Directory
import Outreach.Delivery.Tracking
import Outreach.Http.Message
import Outreach.Order.Intake

/-!
Actions: what a signed-in user asks the application to do, with everything that the path, the query
and the body of the request have to say about it, read and checked.
-/

namespace Outreach.Api

inductive Action where
  | me
  | listCustomers (query : Directory.Query)
  | createCustomer (draft : CustomerDraft)
  | importCustomers (payload : Value)
  | getCustomer (id : Int)
  | updateCustomer (id : Int) (change : CustomerChange)
  | deleteCustomer (id : Int)
  | listOrders (page : PageRequest) (customer : Option Int)
  | createOrder (draft : OrderDraft)
  | getOrder (id : Int)
  | listSegments (page : PageRequest)
  | createSegment (draft : SegmentDraft)
  | previewSegment (request : SegmentPreview)
  | getSegment (id : Int)
  | updateSegment (id : Int) (change : SegmentChange)
  | deleteSegment (id : Int)
  | recomputeSegment (id : Int)
  | evaluateSegment (segment customer : Int)
  | listCampaigns (page : PageRequest) (status : Option String)
  | createCampaign (draft : CampaignDraft)
  | campaignHistory (limit : Int)
  | getCampaign (id : Int)
  | updateCampaign (id : Int) (change : CampaignChange)
  | deleteCampaign (id : Int)
  | sendCampaign (id : Int)
  | campaignReceipts (campaign : Int)
  | recordReceipt (message : Int) (receipt : DeliveryReceipt)
deriving Repr

/-! ### Reading -/

/-- The data of a request from which an action is read. -/
structure Input where
  arguments : Arguments
  parameters : List (String × String)
  body : Entry Value
deriving Repr

namespace Input

/-- A number in the path. -/
def number (input : Input) (name : String) : Checked Int :=
  ((Schema.integer (.text ((input.arguments.lookup name).getD ""))).under name).under "path"

/-- The last value that the query gives under a name. -/
def parameter? (input : Input) (name : String) : Option String :=
  input.parameters.reverse.lookup name

/-- A value in the query, if there is one. -/
def parameter {α : Type} (input : Input) (name : String) (read : Reader α) : Checked (Option α) :=
  match input.parameter? name with
  | none => .accepted none
  | some text => (((read (.text text)).under name).under "query").map some

/-- A value in the query with one that stands for it. -/
def parameterOr {α : Type} (input : Input) (name : String) (default : α) (read : Reader α) :
    Checked α :=
  (input.parameter name read).map fun value => value.getD default

/-- The body, which has to be there. -/
def content {α : Type} (input : Input) (read : Reader α) : Checked α :=
  match input.body with
  | .absent => .rejected [⟨["body"], .missing⟩]
  | .given value => (read value).under "body"

/-- The page of a listing. -/
def page (input : Input) (sizeName : String) (size : Int) : Checked PageRequest :=
  PageRequest.mk <$> input.parameterOr "page" 1 (Schema.integerFrom 1)
    <*> input.parameterOr sizeName size (Schema.integerBetween 1 100)

/-- The page of a listing whose pages hold twenty rows. -/
def usualPage (input : Input) : Checked PageRequest := input.page "page_size" 20

def customerQuery (input : Input) : Checked Directory.Query :=
  Directory.Query.mk <$> input.page "limit" 10
    <*> input.parameter "search" Schema.text
    <*> input.parameterOr "sort" "-created_at" Schema.text

end Input

/-- Whether a task reads the body of a request. -/
def Task.readsBody : Task → Bool
  | createCustomer | importCustomers | updateCustomer | createOrder | createSegment
  | previewSegment | updateSegment | createCampaign | updateCampaign | recordReceipt => true
  | _ => false

/-- Reads an action. -/
def Task.read (input : Input) : Task → Checked Action
  | me => .accepted .me
  | listCustomers => .listCustomers <$> input.customerQuery
  | createCustomer => .createCustomer <$> input.content (CustomerDraft.read .request)
  | importCustomers => .importCustomers <$> input.content Schema.anything
  | getCustomer => .getCustomer <$> input.number "customer_id"
  | updateCustomer =>
      .updateCustomer <$> input.number "customer_id"
        <*> input.content (CustomerChange.read .request)
  | deleteCustomer => .deleteCustomer <$> input.number "customer_id"
  | listOrders =>
      .listOrders <$> input.usualPage <*> input.parameter "customer_id" Schema.integer
  | createOrder => .createOrder <$> input.content (OrderDraft.read .request)
  | getOrder => .getOrder <$> input.number "order_id"
  | listSegments => .listSegments <$> input.usualPage
  | createSegment => .createSegment <$> input.content (SegmentDraft.read [] .request)
  | previewSegment => .previewSegment <$> input.content (SegmentPreview.read [] .request)
  | getSegment => .getSegment <$> input.number "segment_id"
  | updateSegment =>
      .updateSegment <$> input.number "segment_id"
        <*> input.content (SegmentChange.read [] .request)
  | deleteSegment => .deleteSegment <$> input.number "segment_id"
  | recomputeSegment => .recomputeSegment <$> input.number "segment_id"
  | evaluateSegment =>
      .evaluateSegment <$> input.number "segment_id" <*> input.number "customer_id"
  | listCampaigns =>
      .listCampaigns <$> input.usualPage <*> input.parameter "status" Schema.text
  | createCampaign => .createCampaign <$> input.content (CampaignDraft.read .request)
  | campaignHistory =>
      .campaignHistory <$> input.parameterOr "limit" 50 (Schema.integerBetween 1 500)
  | getCampaign => .getCampaign <$> input.number "campaign_id"
  | updateCampaign =>
      .updateCampaign <$> input.number "campaign_id"
        <*> input.content (CampaignChange.read .request)
  | deleteCampaign => .deleteCampaign <$> input.number "campaign_id"
  | sendCampaign => .sendCampaign <$> input.number "campaign_id"
  | campaignReceipts => .campaignReceipts <$> input.number "campaign_id"
  | recordReceipt =>
      .recordReceipt <$> input.number "log_id"
        <*> input.content (DeliveryReceipt.read .request)

end Outreach.Api
