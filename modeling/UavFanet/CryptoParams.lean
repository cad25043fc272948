import UavFanet.Types

/-! The parameter records loaded once at simulation start, and their lookups. -/
namespace UavFanet

structure SlaveKeyEntry where
  uav_index : UInt32
  uav_id : UInt32
  e_i : Int
  d_i : Int
  n_i : Int
  x_i : Int
  y_i : Int
  Mi : Int
  Ni : Int
  xy_i : Int
  p_i : Int
  q_i : Int
  deriving DecidableEq,Repr

structure ClusterCryptoEntry where
  cluster_id : UInt32
  skdc_id : UInt32
  num_uavs : UInt32
  eM : Int
  n_total : Int
  N_global : Int
  N_group : Int
  tek : AesGcmKey
  tek_int : Int
  MT_K : Int
  e_MK : Int
  user_indices : List UInt32
  slave_keys : List SlaveKeyEntry
  tek_hex : String := ""
  deriving DecidableEq,Repr

structure CryptoParamsFile where
  num_clusters : UInt32
  uavs_per_cluster : UInt32
  total_uavs : UInt32
  clusters : List ClusterCryptoEntry
  scheme : String := ""
  global_key_hex : String := ""
  seed : UInt32 := 0
  deriving DecidableEq,Repr

def ClusterCryptoEntry.getSlaveKey (entry : ClusterCryptoEntry) (uav_index : UInt32) :
    Option SlaveKeyEntry :=
  entry.slave_keys.find? (fun sk => sk.uav_index == uav_index)

def CryptoParamsFile.getCluster (params : CryptoParamsFile) (cluster_id : UInt32) :
    Option ClusterCryptoEntry :=
  params.clusters.find? (fun c => c.cluster_id == cluster_id)

end UavFanet
