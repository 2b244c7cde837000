import Mathlib.Data.List.Basic

/-!
# Channels that keep the last value

A `watch` channel has senders and one receiver and keeps the last value that was sent. The receiver
sees whether there is a value that it has not looked at. A send fails when the receiver has been
dropped, and the channel is then as it was.

`Watch` is any implementation of such channels with the laws of its documentation.
-/

set_option autoImplicit false
set_option relaxedAutoImplicit false

namespace CanopenTools.Cells

/-- Channels for values of one type: `channel` makes one, `send` is what a sender does, and the
receiver may look at the value, mark it as seen with it, or be dropped. -/
structure Watch (α : Type) where
  Channel : Type
  channel : α → Channel
  borrow : Channel → α
  hasReceiver : Channel → Bool
  hasChanged : Channel → Bool
  send : Channel → α → Channel
  borrowAndUpdate : Channel → α × Channel
  dropReceiver : Channel → Channel
  borrow_channel : ∀ value, borrow (channel value) = value
  hasReceiver_channel : ∀ value, hasReceiver (channel value) = true
  hasChanged_channel : ∀ value, hasChanged (channel value) = false
  borrow_send : ∀ watch value, hasReceiver watch = true → borrow (send watch value) = value
  hasChanged_send : ∀ watch value, hasReceiver watch = true → hasChanged (send watch value) = true
  hasReceiver_send : ∀ watch value, hasReceiver (send watch value) = hasReceiver watch
  send_closed : ∀ watch value, hasReceiver watch = false → send watch value = watch
  fst_borrowAndUpdate : ∀ watch, (borrowAndUpdate watch).1 = borrow watch
  borrow_borrowAndUpdate : ∀ watch, borrow (borrowAndUpdate watch).2 = borrow watch
  hasReceiver_borrowAndUpdate : ∀ watch, hasReceiver (borrowAndUpdate watch).2 = hasReceiver watch
  hasChanged_borrowAndUpdate : ∀ watch, hasChanged (borrowAndUpdate watch).2 = false
  borrow_dropReceiver : ∀ watch, borrow (dropReceiver watch) = borrow watch
  hasReceiver_dropReceiver : ∀ watch, hasReceiver (dropReceiver watch) = false

/-- The value with two marks: it has not been looked at, and the receiver is there. -/
example (α : Type) : Watch α where
  Channel := α × Bool × Bool
  channel value := (value, false, true)
  borrow watch := watch.1
  hasReceiver watch := watch.2.2
  hasChanged watch := watch.2.1
  send watch value := if watch.2.2 then (value, true, true) else watch
  borrowAndUpdate watch := (watch.1, watch.1, false, watch.2.2)
  dropReceiver watch := (watch.1, watch.2.1, false)
  borrow_channel _ := rfl
  hasReceiver_channel _ := rfl
  hasChanged_channel _ := rfl
  borrow_send _ _ hreceiver := congrArg Prod.fst (if_pos hreceiver)
  hasChanged_send _ _ hreceiver := congrArg (fun watch : α × Bool × Bool ↦ watch.2.1)
    (if_pos hreceiver)
  hasReceiver_send watch value := by
    by_cases hreceiver : watch.2.2 = true
    · rw [if_pos hreceiver, hreceiver]
    · rw [if_neg hreceiver]
  send_closed _ _ hclosed := if_neg (by rw [hclosed]; exact Bool.false_ne_true)
  fst_borrowAndUpdate _ := rfl
  borrow_borrowAndUpdate _ := rfl
  hasReceiver_borrowAndUpdate _ := rfl
  hasChanged_borrowAndUpdate _ := rfl
  borrow_dropReceiver _ := rfl
  hasReceiver_dropReceiver _ := rfl

namespace Watch

variable {α : Type} (watches : Watch α)

/-! ### Several sends -/

theorem hasReceiver_foldl_send (values : List α) (watch : watches.Channel) :
    watches.hasReceiver (values.foldl watches.send watch) = watches.hasReceiver watch := by
  induction values generalizing watch with
  | nil => rfl
  | cons value values ih => rw [List.foldl_cons, ih, watches.hasReceiver_send]

/-- The last value that was sent is kept. -/
theorem borrow_foldl_send {watch : watches.Channel} (hreceiver : watches.hasReceiver watch = true)
    (values : List α) :
    watches.borrow (values.foldl watches.send watch) = values.getLastD (watches.borrow watch) := by
  induction values generalizing watch with
  | nil => rfl
  | cons value values ih =>
    rw [List.foldl_cons, ih ((watches.hasReceiver_send watch value).trans hreceiver),
      List.getLastD_cons, watches.borrow_send watch value hreceiver]

theorem foldl_send_closed {watch : watches.Channel} (hclosed : watches.hasReceiver watch = false)
    (values : List α) : values.foldl watches.send watch = watch := by
  induction values with
  | nil => rfl
  | cons value values ih => rw [List.foldl_cons, watches.send_closed watch value hclosed, ih]

/-- After a send the receiver has something to look at. -/
theorem hasChanged_foldl_send {watch : watches.Channel}
    (hreceiver : watches.hasReceiver watch = true) {values : List α} (hvalues : values ≠ []) :
    watches.hasChanged (values.foldl watches.send watch) = true := by
  obtain ⟨before, last, rfl⟩ := (List.eq_nil_or_concat' values).resolve_left hvalues
  rw [List.foldl_append]
  exact watches.hasChanged_send _ last
    ((watches.hasReceiver_foldl_send before watch).trans hreceiver)

end Watch

end CanopenTools.Cells
