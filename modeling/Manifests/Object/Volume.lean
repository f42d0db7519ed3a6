import Manifests.Object.Coded

/-!
Volumes of a pod and their sources.
-/
namespace Manifests

open Coded

structure ConfigMapVolumeSource where
  defaultMode : Option Int32
  name : String
  optional : Option Bool
  deriving DecidableEq, Inhabited

instance : Coded ConfigMapVolumeSource where
  encode x := .object (optional "defaultMode" x.defaultMode ++ required "name" x.name ++
    optional "optional" x.optional)
  decode v := do
    let m ← members? v
    return {
      defaultMode := ← optional? m "defaultMode"
      name := ← required? m "name"
      optional := ← optional? m "optional" }

structure EmptyDirVolumeSource where
  medium : Option String
  sizeLimit : Option String
  deriving DecidableEq, Inhabited

instance : Coded EmptyDirVolumeSource where
  encode x := .object (optional "medium" x.medium ++ optional "sizeLimit" x.sizeLimit)
  decode v := do
    let m ← members? v
    return {
      medium := ← optional? m "medium"
      sizeLimit := ← optional? m "sizeLimit" }

structure GCEPersistentDiskVolumeSource where
  fsType : Option String
  partition : Option Int32
  pdName : String
  readOnly : Option Bool
  deriving DecidableEq, Inhabited

instance : Coded GCEPersistentDiskVolumeSource where
  encode x := .object (optional "fsType" x.fsType ++ optional "partition" x.partition ++
    required "pdName" x.pdName ++ optional "readOnly" x.readOnly)
  decode v := do
    let m ← members? v
    return {
      fsType := ← optional? m "fsType"
      partition := ← optional? m "partition"
      pdName := ← required? m "pdName"
      readOnly := ← optional? m "readOnly" }

structure GitRepoVolumeSource where
  directory : Option String
  repository : String
  revision : Option String
  deriving DecidableEq, Inhabited

instance : Coded GitRepoVolumeSource where
  encode x := .object (optional "directory" x.directory ++ required "repository" x.repository ++
    optional "revision" x.revision)
  decode v := do
    let m ← members? v
    return {
      directory := ← optional? m "directory"
      repository := ← required? m "repository"
      revision := ← optional? m "revision" }

structure GlusterfsVolumeSource where
  endpoints : String
  path : String
  readOnly : Option Bool
  deriving DecidableEq, Inhabited

instance : Coded GlusterfsVolumeSource where
  encode x := .object (required "endpoints" x.endpoints ++ required "path" x.path ++
    optional "readOnly" x.readOnly)
  decode v := do
    let m ← members? v
    return {
      endpoints := ← required? m "endpoints"
      path := ← required? m "path"
      readOnly := ← optional? m "readOnly" }

structure HostPathVolumeSource where
  path : String
  type : Option String
  deriving DecidableEq, Inhabited

instance : Coded HostPathVolumeSource where
  encode x := .object (required "path" x.path ++ optional "type" x.type)
  decode v := do
    let m ← members? v
    return {
      path := ← required? m "path"
      type := ← optional? m "type" }

structure NFSVolumeSource where
  path : String
  readOnly : Option Bool
  server : String
  deriving DecidableEq, Inhabited

instance : Coded NFSVolumeSource where
  encode x := .object (required "path" x.path ++ optional "readOnly" x.readOnly ++
    required "server" x.server)
  decode v := do
    let m ← members? v
    return {
      path := ← required? m "path"
      readOnly := ← optional? m "readOnly"
      server := ← required? m "server" }

structure PersistentVolumeClaimVolumeSource where
  claimName : String
  readOnly : Option Bool
  deriving DecidableEq, Inhabited

instance : Coded PersistentVolumeClaimVolumeSource where
  encode x := .object (required "claimName" x.claimName ++ optional "readOnly" x.readOnly)
  decode v := do
    let m ← members? v
    return {
      claimName := ← required? m "claimName"
      readOnly := ← optional? m "readOnly" }

structure SecretVolumeSource where
  defaultMode : Option Int32
  optional : Option Bool
  secretName : Option String
  deriving DecidableEq, Inhabited

instance : Coded SecretVolumeSource where
  encode x := .object (optional "defaultMode" x.defaultMode ++ optional "optional" x.optional ++
    optional "secretName" x.secretName)
  decode v := do
    let m ← members? v
    return {
      defaultMode := ← optional? m "defaultMode"
      optional := ← optional? m "optional"
      secretName := ← optional? m "secretName" }

/-- A named volume with one of its sources. -/
structure Volume where
  configMap : Option ConfigMapVolumeSource
  emptyDir : Option EmptyDirVolumeSource
  gcePersistentDisk : Option GCEPersistentDiskVolumeSource
  gitRepo : Option GitRepoVolumeSource
  glusterfs : Option GlusterfsVolumeSource
  hostPath : Option HostPathVolumeSource
  name : String
  nfs : Option NFSVolumeSource
  persistentVolumeClaim : Option PersistentVolumeClaimVolumeSource
  secret : Option SecretVolumeSource
  deriving DecidableEq, Inhabited

instance : Coded Volume where
  encode x := .object (optional "configMap" x.configMap ++ optional "emptyDir" x.emptyDir ++
    optional "gcePersistentDisk" x.gcePersistentDisk ++ optional "gitRepo" x.gitRepo ++
    optional "glusterfs" x.glusterfs ++ optional "hostPath" x.hostPath ++ required "name" x.name ++
    optional "nfs" x.nfs ++ optional "persistentVolumeClaim" x.persistentVolumeClaim ++
    optional "secret" x.secret)
  decode v := do
    let m ← members? v
    return {
      configMap := ← optional? m "configMap"
      emptyDir := ← optional? m "emptyDir"
      gcePersistentDisk := ← optional? m "gcePersistentDisk"
      gitRepo := ← optional? m "gitRepo"
      glusterfs := ← optional? m "glusterfs"
      hostPath := ← optional? m "hostPath"
      name := ← required? m "name"
      nfs := ← optional? m "nfs"
      persistentVolumeClaim := ← optional? m "persistentVolumeClaim"
      secret := ← optional? m "secret" }

end Manifests
