import Manifests.Object.Metadata

/-!
Services and their ports.
-/
namespace Manifests

open Coded

structure ServicePort where
  appProtocol : Option String
  name : Option String
  nodePort : Option Int32
  port : Int32
  protocol : Option String
  targetPort : Option IntOrString
  deriving DecidableEq, Inhabited

instance : Coded ServicePort where
  encode x := .object (optional "appProtocol" x.appProtocol ++ optional "name" x.name ++
    optional "nodePort" x.nodePort ++ required "port" x.port ++ optional "protocol" x.protocol ++
    optional "targetPort" x.targetPort)
  decode v := do
    let m ← members? v
    return {
      appProtocol := ← optional? m "appProtocol"
      name := ← optional? m "name"
      nodePort := ← optional? m "nodePort"
      port := ← required? m "port"
      protocol := ← optional? m "protocol"
      targetPort := ← optional? m "targetPort" }

structure ServiceSpec where
  allocateLoadBalancerNodePorts : Option Bool
  clusterIP : Option String
  clusterIPs : Option (List String)
  externalIPs : Option (List String)
  externalName : Option String
  externalTrafficPolicy : Option String
  healthCheckNodePort : Option Int32
  internalTrafficPolicy : Option String
  ipFamilies : Option (List String)
  ipFamilyPolicy : Option String
  loadBalancerClass : Option String
  loadBalancerIP : Option String
  loadBalancerSourceRanges : Option (List String)
  ports : Option (List ServicePort)
  publishNotReadyAddresses : Option Bool
  selector : Option (SortedMap String)
  sessionAffinity : Option String
  trafficDistribution : Option String
  type : Option String
  deriving DecidableEq, Inhabited

instance : Coded ServiceSpec where
  encode x := .object (optional "allocateLoadBalancerNodePorts" x.allocateLoadBalancerNodePorts ++
    optional "clusterIP" x.clusterIP ++ optional "clusterIPs" x.clusterIPs ++
    optional "externalIPs" x.externalIPs ++ optional "externalName" x.externalName ++
    optional "externalTrafficPolicy" x.externalTrafficPolicy ++
    optional "healthCheckNodePort" x.healthCheckNodePort ++
    optional "internalTrafficPolicy" x.internalTrafficPolicy ++
    optional "ipFamilies" x.ipFamilies ++ optional "ipFamilyPolicy" x.ipFamilyPolicy ++
    optional "loadBalancerClass" x.loadBalancerClass ++
    optional "loadBalancerIP" x.loadBalancerIP ++
    optional "loadBalancerSourceRanges" x.loadBalancerSourceRanges ++ optional "ports" x.ports ++
    optional "publishNotReadyAddresses" x.publishNotReadyAddresses ++
    optional "selector" x.selector ++ optional "sessionAffinity" x.sessionAffinity ++
    optional "trafficDistribution" x.trafficDistribution ++ optional "type" x.type)
  decode v := do
    let m ← members? v
    return {
      allocateLoadBalancerNodePorts := ← optional? m "allocateLoadBalancerNodePorts"
      clusterIP := ← optional? m "clusterIP"
      clusterIPs := ← optional? m "clusterIPs"
      externalIPs := ← optional? m "externalIPs"
      externalName := ← optional? m "externalName"
      externalTrafficPolicy := ← optional? m "externalTrafficPolicy"
      healthCheckNodePort := ← optional? m "healthCheckNodePort"
      internalTrafficPolicy := ← optional? m "internalTrafficPolicy"
      ipFamilies := ← optional? m "ipFamilies"
      ipFamilyPolicy := ← optional? m "ipFamilyPolicy"
      loadBalancerClass := ← optional? m "loadBalancerClass"
      loadBalancerIP := ← optional? m "loadBalancerIP"
      loadBalancerSourceRanges := ← optional? m "loadBalancerSourceRanges"
      ports := ← optional? m "ports"
      publishNotReadyAddresses := ← optional? m "publishNotReadyAddresses"
      selector := ← optional? m "selector"
      sessionAffinity := ← optional? m "sessionAffinity"
      trafficDistribution := ← optional? m "trafficDistribution"
      type := ← optional? m "type" }

end Manifests
