import Outreach.Order.Intake
import Outreach.Proofs.Schema.Again

/-! Orders that can be shown. An order that was submitted as JSON is kept so that its view reads it
again, its items as the records that they were written as. -/

namespace Outreach

open Schema

/-! ### Items -/

/-- An item of an order that is read again as it is kept. -/
structure OrderItem.IsSound (item : OrderItem) : Prop where
  name : Text.isWhole item.name = true
  quantity : item.quantity.All (1 ≤ ·)
  price : item.price.isNonnegative = true

namespace OrderItem

variable {item : OrderItem}

theorem read_isSound {origin : Origin} {value : Value} (json : IsJson value)
    (accepted : read origin value = .accepted item) : item.IsSound := by
  obtain ⟨entries, rfl, built⟩ := record_of_json json accepted
  simp only [Checked.seq_eq_accepted_iff, Checked.map_eq_accepted_iff] at built
  obtain ⟨_, _, ⟨_, _, ⟨_, name, rfl⟩, quantity, rfl⟩, price, rfl⟩ := built
  exact {
    name := required_found returns_text json name
    quantity := permitted_found (returns_integerFrom 1) json quantity
    price := required_found returns_amount json price }

theorem permitted_isSound {origin : Origin} {entries : List (Value × Value)} {name : String}
    {entry : Entry (List OrderItem)} (json : IsJson (.dict entries))
    (accepted : permitted entries name (list (read origin)) = .accepted entry) :
    entry.All fun items => ∀ item ∈ items, item.IsSound := by
  rintro items rfl
  obtain ⟨raw, held, found⟩ := permitted_given accepted
  cases json.lookup held with
  | list each => exact items_good (fun _ _ => read_isSound) each found
  | _ => cases found

/-- The fields of an item as they are written. -/
def fields (style : Style) (item : OrderItem) : List (String × Value) :=
  [("name", .text item.name)] ++ style.entry "quantity" (.int 1) .int item.quantity ++
  [("price", .float item.price)]

/-- An item is read again as it is kept. -/
theorem IsSound.again (sound : item.IsSound) (style : Style) :
    ∃ again, read .data (item.toValue style) = .accepted again ∧ again.IsSound := by
  obtain ⟨quantity, quantityRead, quantitySound⟩ := permitted_again (returns_integerFrom 1) style
    "quantity" (.int 1)
    (by simp [fields, List.lookup_append, List.lookup_cons] :
      (item.fields style).lookup "quantity" = _) sound.quantity ⟨1, rfl, Int.le_refl 1⟩
  have name := required_field (item.fields style) "name" (by simp [fields])
    (returns_text.again sound.name)
  have price := required_field (item.fields style) "price"
    (by simp [fields, List.lookup_append, List.lookup_cons, lookup_entry_other])
    (returns_amount.again sound.price)
  refine ⟨⟨item.name, quantity, item.price⟩, ?_, ⟨sound.name, quantitySound, sound.price⟩⟩
  show _ <*> _ = _
  rw [← fields, name, quantityRead, price]
  rfl

theorem IsSound.told (sound : item.IsSound) (style : Style) :
    (item.toValue style).IsTellable := by
  refine Value.isTellable_record (.append (.append ?_ ?_) ?_)
  · exact .cons (by decide) sound.name .nil
  · exact .entry (by decide) rfl fun n _ => Value.isTellable_int n
  · exact .cons (by decide) (Value.isTellable_float _) .nil

theorem items_again {items : List OrderItem} (sound : ∀ item ∈ items, item.IsSound)
    (style : Style) : ∃ again, (∀ item ∈ again, item.IsSound) ∧ ∀ index,
      Schema.items (read .data) index (items.map (toValue style)) = .accepted again := by
  induction items with
  | nil => exact ⟨[], List.forall_mem_nil _, fun _ => rfl⟩
  | cons item rest ih =>
    rw [List.forall_mem_cons] at sound
    obtain ⟨first, firstRead, firstSound⟩ := sound.1.again style
    obtain ⟨others, othersSound, othersRead⟩ := ih sound.2
    refine ⟨first :: others, List.forall_mem_cons.mpr ⟨firstSound, othersSound⟩, fun index => ?_⟩
    rw [List.map_cons, Schema.items, firstRead, othersRead (index + 1)]
    rfl

end OrderItem

/-! ### Orders -/

/-- An order every column of which is read again. -/
structure Order.IsSound (order : Order) : Prop where
  number : Text.isWhole order.number = true
  items : ∃ again, list (OrderItem.read .data) order.items = .accepted again ∧
    ∀ item ∈ again, item.IsSound

/-- The columns of a sound order are read as a view of it. -/
theorem Order.IsSound.read {order : Order} (sound : order.IsSound) :
    ∃ items, (∀ item ∈ items, item.IsSound) ∧
      OrderView.read (.record order.columns) = .accepted {
        id := order.id
        customer := order.customer
        number := order.number
        amount := order.amount
        items := .given items
        status := order.status
        paymentStatus := order.paymentStatus
        createdAt := .given (some order.createdAt.moment) } := by
  obtain ⟨again, itemsRead, itemsSound⟩ := sound.items
  have word {α : Type} [Vocabulary α] (a : α) :
      (Vocabulary.read : Reader α) (Vocabulary.toValue a) = .accepted a :=
    returns_word.again trivial
  have numbers (n : Int) : integer (.int n) = .accepted n := rfl
  have moments (m : Moment) : nullable moment (.moment m) = .accepted (some m) := rfl
  have amounts (x : Binary64) : Schema.number (.float x) = .accepted x := rfl
  have id := required_field order.columns "id" rfl (numbers order.id)
  have customer := required_field order.columns "customer_id" rfl (numbers order.customer)
  have number := required_field order.columns "order_number" rfl (returns_text.again sound.number)
  have amount := required_field order.columns "amount" rfl (amounts order.amount)
  have items := permitted_field order.columns "items" rfl itemsRead
  have status := required_field order.columns "status" rfl (word order.status)
  have payment := required_field order.columns "payment_status" rfl (word order.paymentStatus)
  have created := permitted_field order.columns "created_at" rfl (moments order.createdAt.moment)
  refine ⟨again, itemsSound, ?_⟩
  show _ <*> _ = _
  rw [id, customer, number, amount, items, status, payment, created]
  rfl

theorem Order.IsSound.shown {order : Order} (sound : order.IsSound) :
    ∃ view, order.view? = some view ∧ (view.toValue {}).IsTellable := by
  obtain ⟨items, itemsSound, read⟩ := sound.read
  refine ⟨_, by rw [view?, read]; rfl, Value.isTellable_record ?_⟩
  have stages : (Vocabulary.toValue order.status).IsTellable := by
    cases order.status <;> exact Value.isTellable_text.mpr (by decide)
  have payments : (Vocabulary.toValue order.paymentStatus).IsTellable := by
    cases order.paymentStatus <;> exact Value.isTellable_text.mpr (by decide)
  refine .append (.append (.append ?_ ?_) ?_) ?_
  · exact .cons (by decide) rfl (.cons (by decide) rfl (.cons (by decide) sound.number
      (.cons (by decide) (Value.isTellable_float _) .nil)))
  · refine .entry (by decide) rfl (Entry.all_given.mpr (Value.isTellable_list ?_))
    exact List.forall_mem_map.mpr fun item member => (itemsSound item member).told {}
  · exact .cons (by decide) stages (.cons (by decide) payments .nil)
  · exact .entry (by decide) rfl (Entry.all_given.mpr (Style.isTellable_moment {} _))

/-! ### New orders -/

/-- The fields of an order as they were read. -/
structure OrderDraft.IsRead (origin : Origin) (given : List (Value × Value)) (draft : OrderDraft) :
    Prop where
  customer : required given "customer_id" integer = .accepted draft.customer
  number : required given "order_number" (boundedText 1 100) = .accepted draft.number
  amount : required given "amount" Schema.amount = .accepted draft.amount
  items : permitted given "items" (list (OrderItem.read origin)) = .accepted draft.items
  status : permitted given "status" Vocabulary.read = .accepted draft.status
  paymentStatus : permitted given "payment_status" Vocabulary.read = .accepted draft.paymentStatus

theorem OrderDraft.isRead {origin : Origin} {value : Value} {draft : OrderDraft}
    (read : OrderDraft.read origin value = .accepted draft) :
    ∃ given, fieldsOf? origin value = some given ∧ draft.IsRead origin given := by
  obtain ⟨given, fields, built⟩ := record_accepted read
  simp only [Checked.seq_eq_accepted_iff, Checked.map_eq_accepted_iff] at built
  obtain ⟨_, _, ⟨_, _, ⟨_, _, ⟨_, _, ⟨_, _, ⟨_, customer, rfl⟩, number, rfl⟩, amount, rfl⟩, items,
    rfl⟩, status, rfl⟩, payment, rfl⟩ := built
  exact ⟨given, fields, customer, number, amount, items, status, payment⟩

theorem OrderDraft.newRow_isSound {origin : Origin} {value : Value} {draft : OrderDraft}
    (json : IsJson value) (read : OrderDraft.read origin value = .accepted draft) (now : Moment) :
    (Intake.newRow now draft).IsSound := by
  obtain ⟨given, fields, isRead⟩ := OrderDraft.isRead read
  obtain rfl := fields_of_json json fields
  obtain ⟨again, againSound, againRead⟩ := OrderItem.items_again
    ((OrderItem.permitted_isSound json isRead.items).getD (List.forall_mem_nil _)) {}
  exact {
    number := (required_found (returns_boundedText 1 100) json isRead.number).1
    items := ⟨again, againRead 0, againSound⟩ }

end Outreach
