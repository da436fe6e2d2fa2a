import ServiceProbe.Service.Apache
import ServiceProbe.Service.Consul
import ServiceProbe.Service.Elasticsearch
import ServiceProbe.Service.Grafana
import ServiceProbe.Service.PhpFpm
import ServiceProbe.Service.RabbitMq
import ServiceProbe.Service.Vault
/-!
All services for which there is a probe, by name.
-/
namespace ServiceProbe.Service

def named : List (Text × Service) :=
  [("apache", apache), ("consul", consul), ("elasticsearch", elasticsearch), ("grafana", grafana),
    ("phpfpm", phpFpm), ("rabbitmq", rabbitMq), ("vault", vault)]

def all : List Service := named.map (·.2)

theorem mem_all {service : Service} : service ∈ all ↔
    service = apache ∨ service = consul ∨ service = elasticsearch ∨ service = grafana ∨
      service = phpFpm ∨ service = rabbitMq ∨ service = vault := by
  simp [all, named]

def find? (name : Text) : Option Service := (named.find? (·.1 == name)).map (·.2)

end ServiceProbe.Service
