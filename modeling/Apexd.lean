import Apexd.Verified.ActiveAfterStaging
import Apexd.Verified.Apexer
import Apexd.Verified.BackupHistory
import Apexd.Verified.BlockApex
import Apexd.Verified.BootPackages
import Apexd.Verified.BootRecovery
import Apexd.Verified.CeSnapshots
import Apexd.Verified.ClassPath
import Apexd.Verified.CompressedApex
import Apexd.Verified.DataApexes
import Apexd.Verified.ForeignDevices
import Apexd.Verified.InstallReplaces
import Apexd.Verified.LoopDevices
import Apexd.Verified.MountRefinement
import Apexd.Verified.MoveDir
import Apexd.Verified.MultiInstall
import Apexd.Verified.SessionCommit
import Apexd.Verified.SharedLibs
import Apexd.Verified.SharedLibsOrder
import Apexd.Verified.ShimContents
import Apexd.Verified.ShimHash
import Apexd.Verified.SpaceReservation
import Apexd.Verified.StagedFiles
import Apexd.Verified.StagingFailure
import Apexd.Verified.UnmountAll
