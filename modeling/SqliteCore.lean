import SqliteCore.Mem5.Init
import SqliteCore.Proofs.Mem5Carve
import SqliteCore.Mem5.Roundup
import SqliteCore.Pager.Types
import SqliteCore.Pager.WritePagelist
import SqliteCore.Pager.Stress
import SqliteCore.Proofs.WriteLoop
import SqliteCore.Proofs.FileImage
import SqliteCore.Proofs.Stress
import SqliteCore.Proofs.Spills
import SqliteCore.Proofs.PageHash
import SqliteCore.Proofs.CleanPages
import SqliteCore.Proofs.RunSafety
