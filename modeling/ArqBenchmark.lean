import ArqBenchmark.BenchmarkCompletion
import ArqBenchmark.ChannelRefinement
import ArqBenchmark.ConversationIDAllocator
import ArqBenchmark.DatagramContents
import ArqBenchmark.DescriptorOwnership
import ArqBenchmark.DummySCTP
import ArqBenchmark.GoBackNOfOne
import ArqBenchmark.HostileAcks
import ArqBenchmark.RetransmissionScan
import ArqBenchmark.SafeQueueMonitor
import ArqBenchmark.SctpShutdown
import ArqBenchmark.SelectiveRepeatAcks
import ArqBenchmark.SelectiveRepeatAgreement
import ArqBenchmark.SelectiveRepeatOfOne
import ArqBenchmark.SelectiveRepeatOfOneRuns
import ArqBenchmark.SelectiveRepeatSlots
import ArqBenchmark.Shutdown
import ArqBenchmark.StopAndWaitAcks
import ArqBenchmark.StopAndWaitLockstep
import ArqBenchmark.WireFormat
