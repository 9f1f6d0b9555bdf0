import Drift.Collection.Arrangement
import Drift.Proofs.CacheKey
import Drift.Proofs.CacheKey.Encoding
import Drift.Proofs.CacheKey.Row
import Drift.Proofs.FingerprintOrder
import Drift.Proofs.Hex
import Drift.Proofs.Json.Forms
import Drift.Proofs.OrderIndependence
import Drift.Proofs.Reconcile.Additions
import Drift.Proofs.Reconcile.Balance
import Drift.Proofs.Reconcile.Bystander
import Drift.Proofs.Reconcile.CleanSplit
import Drift.Proofs.Reconcile.Locality
import Drift.Proofs.Reconcile.NameOrder
import Drift.Proofs.Reconcile.Optimality
import Drift.Proofs.Reconcile.SameRoot
import Drift.Proofs.Reconcile.Shortcuts
import Drift.Proofs.Reconcile.Silence
import Drift.Proofs.Reconcile.Truth
import Drift.Proofs.Toml.Document
import Drift.Proofs.Toml.Forms
import Drift.Proofs.Toml.Number
import Drift.Report
import Drift.Settings.Load
