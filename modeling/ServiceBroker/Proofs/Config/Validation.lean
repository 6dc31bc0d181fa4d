import ServiceBroker.Config.Broker

/-!
# Settings that are not refused

What the checks of a configuration ask for: a header that can carry an identity, a topic, and
numbers and spans other than zero. Nothing is asked for at the upper end.

- `GatewayConfig.validate_eq_ok_iff`: the settings that the gateway does not refuse;
- `BrokerConfig.validate_eq_ok_iff`: the settings that a replica does not refuse.
-/

namespace ServiceBroker

/-- What comes after a check is reached if the check refuses nothing. -/
theorem check_eq_ok_iff {ε α : Type} {p : Prop} [Decidable p] {e : ε} {r : Except ε α} {a : α} :
    (if p then .error e else r) = .ok a ↔ ¬p ∧ r = .ok a := by
  split
  next hp => simp [hp]
  next hp => simp [hp]

/-- What comes after another check, whose refusals are worded anew, is reached if it refuses
nothing. -/
theorem check_mapError_eq_ok_iff {ε ε' α : Type} {check : Except ε Unit} {f : ε → ε'}
    {r : Except ε' α} {a : α} :
    (check.mapError f >>= fun _ => r) = .ok a ↔ check = .ok () ∧ r = .ok a := by
  cases check with
  | error e => exact ⟨nofun, fun h => nomatch h.1⟩
  | ok _ => exact ⟨fun h => ⟨rfl, h⟩, fun h => h.2⟩

theorem GatewayConfig.validate_eq_ok_iff {c : GatewayConfig} : c.validate = .ok () ↔
    (Text.trim c.identityHeader).isEmpty = false ∧ isHeaderName c.identityHeader ∧
      c.maxBodySize ≠ 0 ∧ c.liveChannelBuffer ≠ 0 ∧ c.requestTimeout.isZero = false ∧
      c.pingInterval.isZero = false := by
  simp only [validate, bind, Except.bind, throw, throwThe, MonadExceptOf.throw, pure, Except.pure,
    check_eq_ok_iff]
  simp

theorem BrokerConfig.validate_eq_ok_iff {c : BrokerConfig} : c.validate = .ok () ↔
    c.gateway.validate = .ok () ∧ c.sync.topic.isEmpty = false ∧
      c.subscriptions.maxDescriptorsPerConsumer ≠ 0 ∧ c.delivery.sendTimeout.isZero = false ∧
      c.bus.capacity ≠ 0 := by
  unfold validate
  rw [check_mapError_eq_ok_iff]
  simp only [bind, Except.bind, throw, throwThe, MonadExceptOf.throw, pure, Except.pure,
    check_eq_ok_iff]
  simp

/-- A time that is not zero is not rounded to zero either. -/
theorem Duration.millisUp_pos {d : Duration} (h : d.isZero = false) : 0 < d.millisUp := by
  have hnanos : d.nanos ≠ 0 := by simpa [isZero] using h
  unfold millisUp
  omega

end ServiceBroker
