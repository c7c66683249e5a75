import Outreach.Api.Action
import Outreach.Api.Environment
import Outreach.Campaign.Sending
import Outreach.Customer.View
import Outreach.Delivery.View
import Outreach.Http.Message
import Outreach.Order.View
import Outreach.Segment.View
import Outreach.User.Registry

/-!
Carrying out actions: each is a request to one part of the domain, whose answer is told as JSON.
-/

namespace Outreach.Api

open Http (Response)

/-! ### Answers -/

/-- A success that says something. Numbers that are not finite are told as null. -/
def success (status : Nat) (value : Value) : Response := .json status value.toJson

/-- A page of a listing. -/
def pageValue {α : Type} (write : α → Value) (page : Page α) : Value :=
  .record [
    ("items", .list (page.items.map write)), ("total", .int page.total),
    ("page", .int page.number), ("page_size", .int page.size)]

/-- A page of the directory of customers. -/
def customersValue (page : Page CustomerView) : Value :=
  .record [
    ("customers", .list (page.items.map (CustomerView.toValue {}))),
    ("current_page", .int page.number), ("total_pages", .int page.pageCount),
    ("total_customers", .int page.total)]

def importValue (ids : List Int) : Value :=
  .record [
    ("message", .text ("Imported " ++ String.ofList (Text.ofNat ids.length) ++ " customers")),
    ("customer_ids", .list (ids.map .int))]

def previewValue (preview : Audience.Preview) : Value :=
  .record [
    ("estimated_audience", .int preview.count),
    ("sample_customer_ids", .list (preview.sample.map .int))]

def matchValue (found : Segments.Match) : Value :=
  .record [
    ("segment_id", .int found.segment), ("customer_id", .int found.customer),
    ("matches", .bool found.holds)]

def summaryValue (summary : Campaigns.Summary) : Value :=
  .record [
    ("id", .int summary.id), ("name", .text summary.name), ("sent", .int summary.sent),
    ("failed", .int summary.failed), ("total", .int summary.total),
    ("timestamp", .int summary.timestamp)]

def historyValue (summaries : List Campaigns.Summary) : Value :=
  .record [("campaigns", .list (summaries.map summaryValue))]

def sentValue (sent : Campaigns.Sent) : Value :=
  .record [
    ("message", .text "Campaign sent"), ("id", .int sent.campaign), ("total", .int sent.total),
    ("sent", .int sent.sent), ("failed", .int sent.failed)]

def receiptsValue (messages : List MessageView) : Value :=
  .record [("receipts", .list (messages.map (MessageView.toValue {})))]

def userValue (view : UserView) : Value := .record [("user", view.toValue {})]

/-! ### Actions -/

/-- Tells the answer of what was carried out. -/
def tell {α : Type} (status : Nat) (write : α → Value) (outcome : Except Halt (Effect α)) :
    Except Halt (Effect Response) :=
  outcome.map fun effect => effect.map fun answer => success status (write answer)

/-- Tells nothing but that something was carried out. -/
def tellDone (outcome : Except Halt (Effect Unit)) : Except Halt (Effect Response) :=
  outcome.map fun effect => effect.map fun _ => .noContent

def Action.perform (env : Environment) (db : Database) (user : User) :
    Action → Except Halt (Effect Response)
  | me => tell 200 userValue (.ok ⟨db, Users.view? user⟩)
  | listCustomers query => tell 200 customersValue (Directory.list db query)
  | createCustomer draft => tell 201 (CustomerView.toValue {}) (Directory.create db env.now draft)
  | importCustomers payload => tell 202 importValue (Directory.importAll db env.now payload)
  | getCustomer id => tell 200 (CustomerView.toValue {}) (Directory.get db id)
  | updateCustomer id change =>
      tell 200 (CustomerView.toValue {}) (Directory.update db env.now id change)
  | deleteCustomer id => tellDone (Directory.delete db id)
  | listOrders page customer =>
      tell 200 (pageValue (OrderView.toValue {})) (Intake.list db page customer)
  | createOrder draft => tell 201 (OrderView.toValue {}) (Intake.record db env.now draft)
  | getOrder id => tell 200 (OrderView.toValue {}) (Intake.get db id)
  | listSegments page => tell 200 (pageValue (SegmentView.toValue {})) (Segments.list db page)
  | createSegment draft =>
      tell 201 (SegmentView.toValue {}) (Segments.create env.settings db env.now user.id draft)
  | previewSegment request => tell 200 previewValue (Segments.preview env.settings db request)
  | getSegment id => tell 200 (SegmentView.toValue {}) (Segments.get db id)
  | updateSegment id change =>
      tell 200 (SegmentView.toValue {}) (Segments.update env.settings db env.now id change)
  | deleteSegment id => tellDone (Segments.delete db id)
  | recomputeSegment id =>
      tell 200 (SegmentView.toValue {}) (Segments.recompute env.settings db env.now id)
  | evaluateSegment segment customer =>
      tell 200 matchValue (Segments.evaluate db segment customer)
  | listCampaigns page status =>
      tell 200 (pageValue (CampaignView.toValue {})) (Campaigns.list db page status)
  | createCampaign draft =>
      tell 201 (CampaignView.toValue {}) (Campaigns.create db env.now user.id draft)
  | campaignHistory limit => tell 200 historyValue (Campaigns.history db limit)
  | getCampaign id => tell 200 (CampaignView.toValue {}) (Campaigns.get db id)
  | updateCampaign id change =>
      tell 200 (CampaignView.toValue {}) (Campaigns.update db env.now id change)
  | deleteCampaign id => tellDone (Campaigns.delete db id)
  | sendCampaign id =>
      tell 200 sentValue (Campaigns.send env.settings db env.now env.vendorIds id)
  | campaignReceipts campaign => tell 200 receiptsValue (Tracking.receipts db campaign)
  | recordReceipt message receipt =>
      tell 200 (MessageView.toValue {}) (Tracking.record db env.now message receipt)

end Outreach.Api
