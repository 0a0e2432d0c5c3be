import Mathlib.Data.List.Basic

/-!
# The producer

What becomes of a message that `KafkaJsonProducer.publish` hands to the broker. With `acks="all"` a
call that returns has written its message; one that raises may have written it or not.
-/

namespace SentinelOps.Kafka

/-- What becomes of a message: confirmed by the broker, not written, or written without the
confirmation reaching the publisher. The last two raise. -/
inductive Delivery where
  | acknowledged
  | lost
  | unconfirmed
  deriving DecidableEq

/-- `publish` returns. -/
def Delivery.returns : Delivery → Bool
  | .acknowledged => true
  | .lost | .unconfirmed => false

/-- The message is on the topic. -/
def Delivery.written : Delivery → Bool
  | .lost => false
  | .acknowledged | .unconfirmed => true

/-- A call that returns has written its message. -/
lemma Delivery.written_of_returns {d : Delivery} (h : d.returns = true) : d.written = true := by
  cases d with
  | acknowledged => rfl
  | lost => cases h
  | unconfirmed => cases h

end SentinelOps.Kafka
