/-
Character data for domain names.

Each list below is a table of runs over all code points (see `Unicode.Runs`), taken
from the published character data: how a domain name maps each character, which
characters combine with the one before, how they are directed, how they join, and
which pairs compose into one.  The kinds:

* `mapping` — `V` kept, `I` dropped, `X` refused, `U n` and `W n` moved up or down
  by `n`, `A` every other character moved up by one, `M a.b…` replaced by a sequence;
* `marks` — `M` a combining mark, `N` anything else;
* `combining` — `C n`, the canonical combining class;
* `direction` — the bidirectional class: `L R A` strong, `D` Arabic and `E` European
  digits, `S C T` separators and terminators, `B` boundary, `N` combining, `O` other
  neutral, `X` anything else;
* `joining` — the joining type `U C D R L T`;
* `display` — `P` shows by itself, `G` extends the character before it, `N` shows nothing;
* `composites` — not runs but triples: the distance from the previous composite, then
  the two characters that compose into it.
-/

namespace ModelGateway.Unicode.Data

/-- How a domain name maps each code point. -/
def mapping : List String := [
  "1tV qUw 11V wX W3k 7V Mw.lk V W21 2V I V Mw.lg 2V 2W3k Mw.ld Ulj 2V Mw.mf W3s W23 V M1d.6dg.1g",
  "M1d.6dg.1e M1f.6dg.1g V nUw V 7Uw xV 1cA M2x.lj V 2M2x.2y 4A V 6A 2M30.53 8A Mjg.32 1aA W3d 6A",
  "W7g V U5u 4A U5q U1 V 2U5p U1 2V U27 U5m U5n U1 V U5p U5r V U5v U5t U1 3V U5v U5x V U5y 6A U62",
  "U1 V U62 2V U1 V U62 U1 V 2U61 4A U63 U1 3V U1 7V 3M2s.am 3M30.2y 3M32.2y gA V iA V 3M2s.3e U1 V",
  "W2p W1k 14A W3m V iA 6V U8bv U1 V W4j U8bs 2V U1 V W5f U1x U1z aA 2oV Wg8 W23 Wg8 Wg1 W1n W1m",
  "W1h Wg0 Wfz vV Mw.li Mw.lj Mw.lm Mw.mg Mw.lf Mw.ln 2V W3h Whh Whb Wh7 W27 2jV 2W1s V W1c Mlk.ld",
  "U38 9V I wV 4A W57 V U1 V 2X Mw.qh 3V Wn7 U38 4X Mw.ld Mw.lk.ld U12 Wk0 3U11 X U1s X 2U1r V hUw",
  "X 9Uw zV U8 Wu Wp Wd W6 W9 Wf Wm V oA W1i W1c W1b V W1o W1s V U1 V W1i U1 2V 3W3m gU28 wUw 1cV",
  "yA 8V 1iA Uf eA V 2oA X 12U1c 2X 1aV M12d.136 3V 2X 3V X 1jV 8X rV 4X 6V hX mV X 2gV M17r.19w",
  "M18o.19w M1c7.19w M18q.19w 2sV X 1cV 2X 1nV 2X 2tV eX 1nV 2X 1dV 2X fV X sV 2X V X bV 5X wV 7X",
  "23V X 39V M1sl.1to M1sm.1to M1sn.1to M1ss.1to M1sx.1to M1sy.1to M1t7.1to M1tb.1to 10V X 8V 2X 2V",
  "2X mV X 7V X V 3X 4V 2X 9V 2X 2V 2X 4V 8X V 4X M1wh.1x8 M1wi.1x8 X M1wv.1x8 4V 2X pV 2X 3V X 6V",
  "4X 2V 2X mV X 7V X V M20i.20s X V M20o.20s X 2V 2X V X 5V 4X 2V 2X 3V 3X V 7X M1zq.20s M1zr.20s",
  "M1zw.20s V X M20b.20s 7X hV aX 3V X 9V X 3V X mV X 7V X 2V X 5V 2X aV X 3V X 3V 2X V fX 4V 2X cV",
  "7X 7V X 3V X 8V 2X 2V 2X mV X 7V X 2V X 5V 2X 9V 2X 2V 2X 3V 7X 3V 4X M275.27w M276.27w X 5V 2X",
  "iV aX 2V X 6V 3X 3V X 4V 3X 2V X V X 2V 3X 2V 3X 3V 3X cV 4X 5V 3X 3V X 4V 2X V 6X V eX lV 5X dV",
  "X 3V X nV X gV 2X 9V X 3V X 4V 7X 2V X 3V X 2V 2X 4V 2X aV 7X mV X 3V X nV X aV X 5V 2X 9V X 3V",
  "X 4V 7X 2V 5X 3V X 4V 2X aV X 3V cX dV X 3V X 1fV X 3V X 6V 4X gV 2X qV X 3V X iV 3X oV X 9V X V",
  "2X 7V 3X V 4X 6V X V X 8V 6X aV 2X 3V cX 1eV M2tp.2sy 7V 4X tV 11X 2V X V X 5V X oV X V X cV",
  "M2x9.2wi aV 2X 5V X V X 7V X aV 2X M2wb.2vt M2wb.2w1 2V wX cV W1 1iV M30i.33r 4V X 4V M30s.33r",
  "4V M30x.33r 4V M312.33r 4V M317.33r cV M30g.33p 3V 4X 2V M31t.31u V M31t.31w M33m.328",
  "M33m.31t.328 M33n.328 M33n.31t.328 7V M31t.328 hV M32q.33r 4V X 4V M330.33r 4V M335.33r 4V",
  "M33a.33r 4V M33f.33r cV M32o.33p 3V X fV X dV 11X 4gV 12U5ls X U5ls 5X U5ls 2X 18V Ww 2qV 2I 6gV",
  "X 4V 2X 7V X V X 4V 2X 15V X 4V 2X xV X 4V 2X 7V X V X 4V 2X fV X 1lV X 4V 2X 1vV 2X wV 3X qV 6X",
  "2eV 2X 6W8 2X hsV X sV 3X 2hV 7X mV 9X oV 9X kV cX dV X 3V X 2V cX 1gV 2I 14V 2X aV 6X aV 6X bV",
  "5I aV 6X 2hV 7X 17V 5X 1yV aX vV X cV 4X cV 4X V 3X 16V 2X 5V bX 18V 4X qV 6X bV 3X 1qV 2X 1tV X",
  "tV 2X bV 6X aV 6X eV 2X 1aV 2X cV kX 25V X 4mV 8X 1oV 3X fV 3X 1fV W4su W4st W4sk 2W4si W4sj",
  "W4sc W4ro Ur7n U1 V 5X 17W2bk 2X 3W2bk 8V 8X 17V 5X 18V W5or W5l3 W5os V 2W5os W5ed 8W5os V W5ot",
  "W5cq W5ou W5ot 2W5os W5or W5pe 2W5bo W1w W5ph 2W5pg W5bl 2W5bk W5pi V W5pg W5pf W5ja W5pf W5bz",
  "2W1q W5pi 2W5pf W1o W5bf W5ph W1j 3W52j 2W522 W5q1 W5pt 2W5pr 2W52s W52f 2W52b dV W4zf yV W5e1",
  "W5rt W5e0 W5ny W5dv W5ru W5du W5dt W5dq 3W5do W18 W5cb W5do W11 W5cc W5dn W5dp 4W5do W5dm 2W5dd",
  "W5je 2W5d9 W4c 2W5da W5s1 3W5d8 W553 1sV 46A 4V M2p.ji W1m 2V W5vj V 2oA 8V 8W8 6V 2X 6W8 2X 8V",
  "8W8 8V 8W8 6V 2X 6W8 2X 8V X W8 X W8 X W8 X W8 8V 8W8 V W5hh V W5hi V W5hj V W5hk V W5gt V W5gu",
  "V W5gv 2X M64g.qh M64h.qh M64i.qh M64j.qh M64k.qh M64l.qh M64m.qh M64n.qh M64g.qh M64h.qh",
  "M64i.qh M64j.qh M64k.qh M64l.qh M64m.qh M64n.qh M65c.qh M65d.qh M65e.qh M65f.qh M65g.qh M65h.qh",
  "M65i.qh M65j.qh M65c.qh M65d.qh M65e.qh M65f.qh M65g.qh M65h.qh M65i.qh M65j.qh M674.qh M675.qh",
  "M676.qh M677.qh M678.qh M679.qh M67a.qh M67b.qh M674.qh M675.qh M676.qh M677.qh M678.qh M679.qh",
  "M67a.qh M67b.qh 2V M67k.qh Mq9.qh Mq4.qh X V M69i.qh 2W8 W22 W5jj Mq9.qh Mw.lv W5j9 Mw.lv Mw.n6",
  "Mw.lk.n6 M67o.qh Mqf.qh Mq6.qh X V M69y.qh W2e W5jw W2e W5jx Mqf.qh Mw.lv.lc Mw.lv.ld Mw.lv.n6",
  "3V W5kz 2X 2V 2W8 W2s W5kc X Mw.lw.lc Mw.lw.ld Mw.lw.n6 3V W5kj 4V 2W8 W34 W5jy W7 Mw.lk.lc",
  "Mw.lk.ld W68f 2X M67w.qh Mqx.qh Mr2.qh X V M6ba.qh W3k W5kd W3i W5kd Mqx.qh Mw.ld Mw.lw X bMw I",
  "2V 2X V W1 5V Mw.mr cV 3X V 7X W6bz 3V M6cy.6cy M6cy.6cy.6cy V M6d1.6d1 M6d1.6d1.6d1 4V Mx.x V",
  "Mw.lh 8V M1r.1r M1r.x Mx.1r dV M6cy.6cy.6cy.6cy 7V W6db 5I 5X 6I W6dc W6bs 2X 6W6dc W6dr Ubb",
  "W6db 2W6dx W6c1 aW6ds W6e7 Uav W6dr 2W6ed X W6cv W6cs W6cj W6cb W5yz W6ct 4W6cr W6cq 2W6co 3X 8V",
  "M36.37 pV eX xV fX M2p.1b.2r M2p.1b.37 W6fz M4w.2r V M2r.1b.33 M2r.1b.39 W624 V M4w.2u 2W6g3",
  "3M2w W6aw 2M2x 2M30 V W6g7 M32.33 2V 3W6g9 2M36 2V M37.31 M38.2t.30 M38.31 V W6ga V W5st V W6ge",
  "V W6gv W6di 2W6h6 V 2M2t W6h7 Us W6h2 W6h1 4W5et W6hc V M2u.2p.3c W5to 2Mqb W5tr U5t 4V 2M2s",
  "W6hu 2W6hr 6V M1d.6dg.1j M1d.6dg.1l M1d.6dg.1d.1c M1d.6dg.1f M1e.6dg.1f M1d.6dg.1h M1e.6dg.1h",
  "M1f.6dg.1h M1g.6dg.1h M1d.6dg.1i M1h.6dg.1i M1d.6dg.1k M1f.6dg.1k M1h.6dg.1k M1j.6dg.1k M1d.6dg",
  "W6if M2x.2x M2x.2x.2x M2x.3a W6i6 M3a.2x M3a.2x.2x M3a.2x.2x.2x M2x.3c W6i9 M3c.2x M3c.2x.2x",
  "W6io 2W6iy W6iq W6iv M2x.2x M2x.2x.2x M2x.3a W6im M3a.2x M3a.2x.2x M3a.2x.2x.2x M2x.3c W6ip",
  "M3c.2x M3c.2x.2x W6j4 2W6je W6j6 3V U1 5V M1c.6dg.1f 2V 4X 4cV M6qz.6qz M6qz.6qz.6qz V M6r2.6r2",
  "M6r2.6r2.6r2 6wV 2U2jj 73V mX bV lX 9W75b M1d.1c M1d.1d M1d.1e M1d.1f M1d.1g M1d.1h M1d.1i",
  "M1d.1j M1d.1k M1d.1l M1e.1c M14.1d.15 M14.1e.15 M14.1f.15 M14.1g.15 M14.1h.15 M14.1i.15",
  "M14.1j.15 M14.1k.15 M14.1l.15 M14.1d.1c.15 M14.1d.1d.15 M14.1d.1e.15 M14.1d.1f.15 M14.1d.1g.15",
  "M14.1d.1h.15 M14.1d.1i.15 M14.1d.1j.15 M14.1d.1k.15 M14.1d.1l.15 M14.1e.1c.15 kX M14.2p.15",
  "M14.2q.15 M14.2r.15 M14.2s.15 M14.2t.15 M14.2u.15 M14.2v.15 M14.2w.15 M14.2x.15 M14.2y.15",
  "M14.2z.15 M14.30.15 M14.31.15 M14.32.15 M14.33.15 M14.34.15 M14.35.15 M14.36.15 M14.37.15",
  "M14.38.15 M14.39.15 M14.3a.15 M14.3b.15 M14.3c.15 M14.3d.15 M14.3e.15 qW76d qW773 W796 10hV",
  "M6qz.6qz.6qz.6qz 2vV M1m.1m.1p M1p.1p M1p.1p.1p 2tV M8gt.mw 47V 2X 3uV 1cU1c 1cV U1 V W8af W2xy",
  "W89z 2V 6A W8bg W8al W8bj W8bi V U1 2V U1 6V W8pe W8p3 2W8cf 2sA 7V 4A 3V U1 V 5X 19V X V 5X V",
  "2X 1kV 7X We V eX oV 9X 7V X 7V X 7V X 7V X 7V X 7V X 7V X 7V X 3iV yX qV X 4V Uc32 2bV Um98 cX",
  "U64g U65j U65w U664 U66t U680 U686 U68p U69e U6ra U6sb U6sg U6t2 U6tl U6u5 U6vl U6w5 U6wf U70p",
  "U73a U741 U745 U74y U756 U75w U768 U76w U78b U78s U79i U7uh U7wg U897 U89t U8a0 U8aa U8ar U8cu",
  "U8q2 U8rd U8uo U8va U8vs U8wd U8xu U8xw U97x U986 U98h U98t U9c0 U9c7 U9cb U9fj U9fs U9g4 U9gb",
  "U9hz U9if U9iw U9l3 Ua17 Ua2g Ua30 Uanj Uann Uapx Uaqc Uaqo Uar8 Uasa Uase Uazs Ub0f Ub1a Ubth",
  "Ubva Ubvw Ubxh Uby4 Ubyc Ubyi Ubzx Uc01 Uc0w Ucuu Ud78 Ud7j Ud7n Ud7q Ud7x Ud8e Ud8f Udan Udgm",
  "Udgq Udq4 Udqd Udrq Udrw Uds4 Udsb Udut Uduz Ue1a Ue1g Ue2s Ue38 Ue4i Ueb2 Ueb8 Uebo Uekq Ueo7",
  "Ueoc Uetd Uevr Uex0 Uf7h Ufb5 Ufr2 Ufrs Uftc Ufuq Ufwl Ufwv Ufx0 Ufxw Ufzz Ug08 Ug9t Ug9z Uga7",
  "Ugaf Ugau Ugb8 Ugbb Ugdh Ugdk Ugdp Uh4x Uh5q Uhiq Uhj1 Uhjn Uhrh Uhrt Uhtr Uhv0 Uiaq Uib4 Uibi",
  "Uicg Uidg Uiiy Uij9 Uil3 Uiry Uiss Uiyk Uiz4 Uiz8 Uj5b Ujae Ujdu Ujdz Uje3 Uk40 Uk48 Uk8j Ukcs",
  "Ukcu Uke4 Ukh0 Ukhc Ukhf Ukhl Ukka Ukl7 Uklc Uklp Ukqb Ukrp Ukrs Ukwu Ukww Ukxe Ul4d Ul5o Ul5u",
  "Ul7r Ul80 Ul82 Ul8b Ul94 Ulk2 Ulv5 Ulve Ulwf Ulx0 Ulx7 Ulxg Ulxj Ulym Ulyp Ulz5 Ulz9 Ulzl Um0b",
  "Um0p Um0w Um2i Um2w Um2z 16X W9gg V W9g4 1fV W10 V U6x5 2U6x7 5V X 2eV 2X 2V Mw.9ll Mw.9lm 2V",
  "M9l4.9l6 2nV M9mb.9mw 5X 17V X 2W6cx W689 W6cy 2W689 3W6d0 6W68a W6cm 3W6d7 W6cj aW6d8 lW6b2 I",
  "2W6dt 2W68w W68t W68s W68o W68l W68k W6du W68i W68h 2W6dw W6dv 2W6du W6dr W6dq 5W6dp W6dn W6dk",
  "W6db W6d5 W6d1 2W68h 3W6ct 2W6bn W6bl 2W6bd W6bc W6b3 W6b1 X 2V U5m6 U5q1 U5md U7d2 U5mc U5na",
  "U5mb Udcp U5of U5mm U5lx U7t8 U7f6 U5qz 1yV aX gV M14.3cw.15 M14.3cy.15 M14.3cz.15 M14.3d1.15",
  "M14.3d2.15 M14.3d3.15 M14.3d5.15 M14.3d7.15 M14.3d8.15 M14.3da.15 M14.3db.15 M14.3dc.15",
  "M14.3dd.15 M14.3de.15 M14.xz4.15 M14.yvs.15 M14.zc4.15 M14.108s.15 M14.10p4.15 M14.115g.15",
  "M14.1224.15 M14.12ys.15 M14.13f4.15 M14.14bs.15 M14.14s4.15 M14.158g.15 M14.15os.15 M14.1654.15",
  "M14.13p8.15 M14.1350.13ic.15 M14.1350.16f8.15 X M14.feo.15 M14.fik.15 M14.fex.15 M14.h5n.15",
  "M14.fis.15 M14.g31.15 M14.fer.15 M14.g2z.15 M14.fh9.15 M14.gg1.15 M14.kco.15 M14.m7f.15",
  "M14.ldg.15 M14.kdk.15 M14.ssx.15 M14.h7j.15 M14.k4l.15 M14.kkq.15 M14.kcp.15 M14.ny6.15",
  "M14.glp.15 M14.mm1.15 M14.rs1.15 M14.nz1.15 M14.gc4.15 M14.fkz.15 M14.gos.15 M14.i1y.15",
  "M14.nhf.15 M14.flt.15 M14.rt3.15 M14.ggk.15 M14.nzh.15 M14.fm9.15 M14.pnu.15 M14.po3.15 U6x7",
  "U8qf Ua4h Ueh4 8V M34.38.2t M1e.1d M1e.1e M1e.1f M1e.1g M1e.1h M1e.1i M1e.1j M1e.1k M1e.1l",
  "M1f.1c M1f.1d M1f.1e M1f.1f M1f.1g M1f.1h W6lc 2W6lb 3W6la W6l9 2W6l8 5W6l7 Uo0i Uox5 Updg Uqa3",
  "Uqqe Ur6p Us3c Uszz Utga Uucx Uut8 Uv9j Uvpu Uw65 M14c8.y5c M13p8.13dk Ut9u V U5fk U5jf U5fr",
  "U76g U5jk U63s U5fh U63o U5hx U6go Uada Uc80 Ube0 Uae3 Uitf U780 Ua51 Ual5 Uad3 Udyj U6m1 Ucmc",
  "Uhsb Udza U6cc Ue2n Ud5p U7o8 Uij1 U619 U6he Ubih Uk11 U5m8 U647 Ub7k U5eu U5fs U5et U8jj U6kr",
  "U6fm U831 U81n Udh3 U5lg Uhsp U6g5 U7l8 M1f.1i M1f.1j M1f.1k M1f.1l M1g.1c M1g.1d M1g.1e M1g.1f",
  "M1g.1g M1g.1h M1g.1i M1g.1j M1g.1k M1g.1l M1h.1c M1d.kco M1e.kco M1f.kco M1g.kco M1h.kco M1i.kco",
  "M1j.kco M1k.kco M1l.kco M1d.1c.kco M1d.1d.kco M1d.1e.kco M2w.2v M2t.36.2v M2t.3a M30.38.2s Wfi",
  "Wfh Wfg Wff 2Wfe Wfd Wfc Wfb Wfa Wf9 Wf8 Wf7 Wf6 Wf5 Wf4 Wf3 Wf1 Wf0 Wez 6Wey Wew Weu Wes Weq",
  "5Weo Wen Wem 6Wel 4Wek Mfl0.gp8 M9lu.9n5.9oc.9mw M9lu.9nv.9n9.9lt M9lu.9o3.9ne.9lu M9lu.9oc.9nv",
  "M9lw.9mz.9o3.9m8 M9lw.9o3.9mp M9ly.9m1.9o3 M9m0.9mh.9m7.9oc.9mx M9m0.9oc.9m3.9oc M9m2.9o3.9mh",
  "M9m2.9oc.9nk M9m3.9lw.9nu M9m3.9nt.9mr.9mw M9m3.9nx.9nu.9oc M9m4.9nx.9o3 M9m4.9o3.9ni M9m6.9m4",
  "M9m6.9mz.9oc M9m5.9np.9nu.9oc M9m6.9nv.9mo.9oc M9m5.9nx M9m5.9nx.9m8.9nt.9nk",
  "M9m5.9nx.9nl.9oc.9mw.9nv M9m5.9nx.9nz.9mr.9mw M9m8.9nt.9nk M9m8.9nt.9nk.9mw.9o3",
  "M9m7.9nv.9mk.9lw.9nx M9m7.9nx.9oc.9n1 M9m9.9oc.9mh M9mb.9nv.9my M9mb.9oc.9nh M9md.9lw.9m7.9nv",
  "M9md.9o3.9mp.9oc.9nk M9mf.9nu.9o3.9m8 M9mj.9o3.9mp M9mj.9o3.9mw M9mo.9oc.9mh M9mv.9mf M9mx.9nv",
  "M9mw.9o3 M9my.9n2 M9n2.9mr.9mw M9n3.9lw.9ms M9n5.9oc.9mj.9o3.9mw M9n5.9oc.9ms M9n4.9oc.9nw.9nv",
  "M9n8.9lu.9mh.9mw.9nv M9n8.9m7.9nv M9n8.9mb M9n7.9nv M9n9.9lt.9nt.9mr.9mx M9n9.9lv.9oc.9mw",
  "M9na.9mr.9mf.9lz.9nv M9n9.9nt.9o3 M9nc.9m7.9mn.9oc.9nv M9ne.9ml M9ne.9mz.9n6 M9nc.9nv.9ms",
  "M9ne.9o3.9mh M9ne.9oc.9mg M9nd.9oc.9mn M9nh.9lw.9o3.9mw M9ng.9nv.9mw M9nf.9o3 M9nh.9o3.9mx",
  "M9nf.9oc.9nv M9nf.9oc.9o3 M9ni.9lw.9m7.9nx M9ni.9lw.9nv M9ni.9mr.9n3 M9ni.9nv.9m7",
  "M9ni.9o3.9mf.9nr.9o3 M9nj.9m7.9nx.9o3 M9nj.9nu M9nj.9nu.9n4.9oc.9nv M9nl.9m4 M9nl.9m4.9mw.9o3",
  "M9nl.9oc.9mw.9nv M9no.9oc.9mx M9no.9oc.9nv M9nq.9lu.9o3 M9nu.9mr.9mw.9nv M9nu.9nt M9nv.9n8.9oc",
  "M9nv.9oc.9na.9nv M9nw.9nk M9nw.9o3.9mw.9ma.9o3 M9nz.9mr.9mw M1c.m9l M1d.m9l M1e.m9l M1f.m9l",
  "M1g.m9l M1h.m9l M1i.m9l M1j.m9l M1k.m9l M1l.m9l M1d.1c.m9l M1d.1d.m9l M1d.1e.m9l M1d.1f.m9l",
  "M1d.1g.m9l M1d.1h.m9l M1d.1i.m9l M1d.1j.m9l M1d.1k.m9l M1d.1l.m9l M1e.1c.m9l M1e.1d.m9l",
  "M1e.1e.m9l M1e.1f.m9l M1e.1g.m9l M2w.34.2p M2s.2p M2p.39 M2q.2p.36 M33.3a M34.2r M2s.31",
  "M2s.31.1e M2s.31.1f M2x.39 Minn.jdc Mk6l.gp8 Mhlz.l7n Mk5q.lh7 Mkkq.irz.fmi.ny6 M34.2p M32.2p",
  "Mqk.2p M31.2p M2z.2p M2z.2q M31.2q M2v.2q M2r.2p.30 M2z.2r.2p.30 M34.2u M32.2u Mqk.2u Mqk.2v",
  "M31.2v M2z.2v M2w.3e M2z.2w.3e M31.2w.3e M2v.2w.3e M38.2w.3e Mqk.30 M31.30 M2s.30 M2z.30 M2u.31",
  "M32.31 Mqk.31 M31.31 M2r.31 M2z.31 M31.31.1e M2r.31.1e M31.1e M2z.31.1e M31.31.1f M2r.31.1f",
  "M31.1f M2z.31.1f M31.6qd.37 M31.6qd.37.1e M34.2p M2z.34.2p M31.34.2p M2v.34.2p M36.2p.2s",
  "M36.2p.2s.6qd.37 M36.2p.2s.6qd.37.1e M34.37 M32.37 Mqk.37 M31.37 M34.3a M32.3a Mqk.3a M31.3a",
  "M2z.3a M31.3a M34.3b M32.3b Mqk.3b M31.3b M2z.3b M31.3b M2z.qx M31.qx X M2q.35 M2r.2r M2r.2s",
  "M2r.6qd.2z.2v X M2s.2q M2v.3d M2w.2p M2w.34 M2x.32 M2z.2z M2z.31 M2z.38 M30.31 M30.32 M30.33.2v",
  "M30.3c M31.2q M31.2x.30 M31.33.30 M34.2w X M34.34.31 M34.36 M37.36 M37.3a M3b.2q M3a.6qd.31",
  "M2p.6qd.31 M1d.k4l M1e.k4l M1f.k4l M1g.k4l M1h.k4l M1i.k4l M1j.k4l M1k.k4l M1l.k4l M1d.1c.k4l",
  "M1d.1d.k4l M1d.1e.k4l M1d.1f.k4l M1d.1g.k4l M1d.1h.k4l M1d.1i.k4l M1d.1j.k4l M1d.1k.k4l",
  "M1d.1l.k4l M1e.1c.k4l M1e.1d.k4l M1e.1e.k4l M1e.1f.k4l M1e.1g.k4l M1e.1h.k4l M1e.1i.k4l",
  "M1e.1j.k4l M1e.1k.k4l M1e.1l.k4l M1f.1c.k4l M1f.1d.k4l M2v.2p.30 m8dV 3X 1jV 9X 9oV kX 1aA iV sA",
  "Ww2a Ww29 2iV 8X yV eA 2V 1qA W1 8V 4A Wr9g aA 3V U1 V Wwmg 2V 4A 2V kA Wwn8 Wwnj Wwnf Wwn5 Wwn8",
  "V Wwlu Wwmi Wwlx Ups gA W1c Wwn7 Wraw 4A Wwo7 gA Wwu9 kX Wx32 Wx3j Wx3h Wx37 U1 2V Wwy9 Wwx2 1fV",
  "3X aV 6X 1kV 8X 1yV 8X cV 6X 38V bX uV 3X 26V X bV 4X xV X 1jV 9X eV 2X aV 2X 2vV oX sV aX 6V 2X",
  "6V 2X 6V 9X 7V X 7V X 18V Wtx W12 Wxdf Wd 9V Wxcs 2V 4X 28Wtzk 1aV 2X aV 6X 8mcV cX nV 4X 1dV",
  "6isX Wlh4 Wsul Wkzc Wldn Wrar Wxqr Wwm9 2Mvj0 Wvjs Wke1 Wwas Wvk4 Wtuf Wpt1 Wo0a Wmoh Wmdz Wm56",
  "Wkn8 Ws9e Wrne Wqwt Wqbd Wn2z Wkhb Wisp Wxp5 Wwpz Ws2h Wqo3 Wmpe Whz6 Wus1 Wr3r Wms6 Wm2o Wtp8",
  "Wnke Wmbs Wuhq Wsuq Wrls Wqi7 Wkm6 Wxif Wx2v Wwup Wtbg Ws4e Wqoy Wpqk Wnxv Wmr3 Wmoq Wl6w Wjd2",
  "Wiiy Wi0w Wpf3 Wp8d Wof1 Wn79 Wk6z Whxd Wlt7 Wvoj Wugv Woo4 Wnuv Wqn8 Wpdp Wlfq Wjf6 Wvoy Wuzt",
  "Wsah Wrjn Wrb3 Woio Wobd Wjk6 Www0 Wnuw Wx2w Wx3d Wp4q Woex Wn6v Wjj8 Wlp6 Wtqk Wsbe Wlsv Wxt1",
  "Wv3s Wua6 Wqfu Wq2a Wwuk Wpd5 Wxie Wud9 Wxui Wrrw Wt81 Wojs Wwq0 Wvta Wprg Wn51 Wlvp Wrzq Wkw1",
  "Wru2 Wtpx Wnf3 Wtlh Wq35 Wxqh Wx73 Wx4g Wsmx Wolw Wnil Wluz Wkhb Wwwa Wwn2 Wvm6 Wuja Wt6m Wr5y",
  "Wpcr Wjq1 Wisd Whyp Whx7 Wwz3 Wszp Ws2d Wkyz Wumy Wu0v Wtxs Wtfb Wrcf Wqx6 Wqa3 Wp8r Wof6 Wnxk",
  "Wl0y Wn1n Wktz Wk7l Wx39 Wwze Wwkh Wr13 Wmam Wlx3 Wul5 Wucu Wtnt Ws1j Wors Wqia Wxqc Ww4w Wv5v",
  "Wusx Wuc0 Wqgr Wqbp Wo45 Wnze Wkfx Wji4 Wjfv Wja4 Wxm2 Wpag Wkjn Wjk0 Wu6w Wxtg Wxcx Wv66 Wv3y",
  "Wt9h Wse5 Wquq Wpz3 Wn2e Wksn Whtj Wt31 Wjo8 Wx1a Wswd Wst2 Wrrd Wrhr Wqf7 Wq5w Wpk3 Won3 Wj8y",
  "Wx9g Wtyc Wjmj Wxih Wuyk Wrn0 Wl2l Wuh9 Wu51 Wssj Wqj8 Wjme Wx4k Wwr3 Wv3u Wt71 Wsyb Wsoq Wrum",
  "Wqfy Wq2r Wo6l Wmc8 Wmbr Wkkd Wjk8 Wwx8 Wrhu Wwr4 Wqvy Wqc7 Wmwm Wjm6 Wihn Wi1g Wswt Wroq Wnpq",
  "Wp4c Wp20 Worr Wqpm Wr4y Wlus Wxtp Wngo Wx51 Wx6h Wuor Wtv3 Woq5 Wvb3 Wrtz Wt3m Wl3g Wmgs Wjp8",
  "Wm7z Wuns Wxcc Wwgd 2V Wvxy V Wt5q 2V Wx87 Wqng Wpxp Wpgc Wpff Wpf9 Wpe4 Wjie Worj Wo69 V Wmxa V",
  "Wlyi 2V Wkx9 Wkrt 3V Wj7f Wj73 Wj5w Wi9l Wksw Wjnc Wxoi Wxfu Wxd1 Wx2i Wx1s Wwys Wwih Wwfl Wwcw",
  "Wvzt Wvwy Wv6f Wv66 Wucp Wu6u Wu5t Wu32 Wtf6 Wtb4 Wt6a Wssf Wrta Wros Wrhh Wr16 Wqvy Wqi0 Wpmi",
  "Wphq Wphg Wphi Wphb Wph6 Wph0 2Wpfp Wpas Wp90 Wp06 Wokj Wojz Woig Woa0 Wo5y Wnsf 2Mprt Wnbc Wmds",
  "Wma3 Wm01 Wlyi Wln5 Wllp Wl2o Wkz3 Wjnp Wjfu Wje7 Wueu U1sw2 Wnrp 2X Wy16 Wxbw Wxe2 Wxrn Wxf3",
  "Wxdh Wx4f Wx31 Wwkb Wwmc Wwkh Wwih Ww0y Wvyi Wvui Wvu3 Wvmm Wvh5 Wur4 Wuqy Wumz Wul4 Wucu Wu9l",
  "Wubk Wu7v Wu96 Wu55 Wu3c Wts9 Wtpu Wtod Wth6 Wt99 Wt4r Wt4o Wt32 Ws9o Ws7w Wrx2 Wrlp Wrm6 Wrjs",
  "Wrct Wr3i Wpva Wqy1 Wquo Wqra Wqi8 Wqe4 Wqco Wq6f Wq6e Wq1o Wq18 Wq0k Wpy7 Wpyi Wpnj Wpa3 Wp2l",
  "Woxf Wor8 Won0 Wodv Wo8d Wnkx Wngl Wmrg Wmet Wmcx Wmci Wm4a Wm2q Wm40 Wm2j Wm2n Wm35 Wm12 Wlyu",
  "Wlo9 Wl8q Wl01 Wkrv Wklr Wjt6 Wjqc Wjn6 Wjji Wjij Wji8 Wjgx Wiwr Wi0i U1njv U1njo U1ptw W11rp",
  "W10vv W10uz U1vuc U1xx6 U24n0 Wi39 Wi17 12X M2u.2u M2u.2x M2u.30 M2u.2u.2x M2u.2u.30 2M37.38 cX",
  "M12s.12u M12s.12d M12s.12j M132.12u M12s.12l 5X M15l.14k V M16a.14n W1cfy W1cgh 2W1cgf 3W1cg9",
  "W1cfz W1cfy W1dku M161.14x M161.14y M161.14s.14x M161.14s.14y M15c.14n M15c.14o M15c.14s",
  "M15d.14s M15e.14s M15f.14s M15g.14s M15h.14s M15i.14s X M15k.14s M15l.14s M15m.14s M15n.14s",
  "M15o.14s X M15q.14s X M15s.14s M15t.14s X M15v.14s M15w.14s X M15y.14s M15z.14s M160.14s",
  "M161.14s M162.14s M15h.14p M15d.14v M15n.14v M15w.14v M15c.15o 2M19t 4M1a3 4M1a6 4M1a8 4M1a2",
  "4M1a7 4M1a1 4M1b8 4M1ba 4M1ac 4M1ab 4M1ae 4M1af 2M1al 2M1ak 2M1am 2M1ag 2M1aw 2M1ap 4M1bd 4M1bj",
  "4M1bn 4M1bl 2M1bu 4M1bv 2M1c0 4M1c1 4M1by 2M1ci 2M1cj xV 4M1bh 2M1c7 2M1c6 2M1c8 M1c7.19w 2M1cb",
  "2M1c5 2M1c9 4M1cg 2M18p 2M17q.17r 2M17q.1cl 2M17q.18o 2M17q.1c7 2M17q.1c6 2M17q.1c8 3M17q.1cg",
  "3M17q.18p 4M1cc M17q.17w M17q.17x M17q.18l M17q.18p M17q.18q M17s.17w M17s.17x M17s.17y M17s.18l",
  "M17s.18p M17s.18q M17u.17w M17u.17x M17u.17y M17u.18l M17u.18p M17u.18q M17v.17w M17v.18l",
  "M17v.18p M17v.18q M17w.17x M17w.18l M17x.17w M17x.18l M17y.17w M17y.17x M17y.18l M183.17w",
  "M183.17x M183.17y M183.18l M185.17x M185.18l M186.17w M186.17x M186.17y M186.18l M187.17x",
  "M187.18l M188.18l M189.17w M189.18l M18a.17w M18a.18l M18h.17w M18h.17x M18h.17y M18h.18l",
  "M18h.18p M18h.18q M18i.17x M18i.18l M18i.18p M18i.18q M18j.17r M18j.17w M18j.17x M18j.17y",
  "M18j.18k M18j.18l M18j.18p M18j.18q M18k.17w M18k.17x M18k.17y M18k.18l M18k.18p M18k.18q",
  "M18l.17w M18l.17x M18l.17y M18l.18l M18l.18p M18l.18q M18m.17w M18m.17x M18m.17y M18m.18l",
  "M18m.18p M18m.18q M18n.17w M18n.18l M18n.18p M18n.18q M18q.17w M18q.17x M18q.17y M18q.18l",
  "M18q.18p M18q.18q M180.19s M181.19s M18p.19s Mw.18s.18x Mw.18t.18x Mw.18u.18x Mw.18v.18x",
  "Mw.18w.18x Mw.18x.19s M17q.181 M17q.182 M17q.18l M17q.18m M17q.18p M17q.18q M17s.181 M17s.182",
  "M17s.18l M17s.18m M17s.18p M17s.18q M17u.181 M17u.182 M17u.18l M17u.18m M17u.18p M17u.18q",
  "M17v.181 M17v.182 M17v.18l M17v.18m M17v.18p M17v.18q M18h.18p M18h.18q M18i.18p M18i.18q",
  "M18j.17r M18j.18k M18j.18l M18j.18p M18j.18q M18k.18l M18k.18p M18k.18q M18l.17r M18l.18l",
  "M18m.181 M18m.182 M18m.18l M18m.18m M18m.18p M18m.18q M18p.19s M18q.181 M18q.182 M18q.18l",
  "M18q.18m M18q.18p M18q.18q M17q.17w M17q.17x M17q.17y M17q.18l M17q.18n M17s.17w M17s.17x",
  "M17s.17y M17s.18l M17s.18n M17u.17w M17u.17x M17u.17y M17u.18l M17u.18n M17v.18l M17w.17x",
  "M17w.18l M17x.17w M17x.18l M17y.17w M17y.18l M183.17w M183.17x M183.17y M183.18l M185.17x",
  "M185.17y M185.18l M186.17w M186.17x M186.17y M186.18l M187.17x M188.18l M189.17w M189.18l",
  "M18a.17w M18a.18l M18h.17w M18h.17x M18h.17y M18h.18l M18i.17x M18i.18l M18j.17w M18j.17x",
  "M18j.17y M18j.18k M18j.18l M18k.17w M18k.17x M18k.17y M18k.18l M18k.18n M18l.17w M18l.17x",
  "M18l.17y M18l.18l M18m.17w M18m.17x M18m.17y M18m.18l M18m.18n M18n.17w M18n.18l M18n.19s",
  "M18q.17w M18q.17x M18q.17y M18q.18l M18q.18n M17q.18l M17q.18n M17s.18l M17s.18n M17u.18l",
  "M17u.18n M17v.18l M17v.18n M183.18l M183.18n M184.18l M184.18n M18j.18k M18j.18l M18k.18l",
  "M18m.18l M18m.18n M18q.18l M18q.18n M18g.18u.18x M18g.18v.18x M18g.18w.18x M187.18p M187.18q",
  "M189.18p M189.18q M18a.18p M18a.18q M183.18p M183.18q M184.18p M184.18q M17x.18p M17x.18q",
  "M17w.18p M17w.18q M17y.18p M17y.18q M185.18p M185.18q M186.18p M186.18q M184.17w M184.17x",
  "M184.17y M184.18l M184.181 M183.181 M185.181 M186.181 M187.18p M187.18q M189.18p M189.18q",
  "M18a.18p M18a.18q M183.18p M183.18q M184.18p M184.18q M17x.18p M17x.18q M17w.18p M17w.18q",
  "M17y.18p M17y.18q M185.18p M185.18q M186.18p M186.18q M184.17w M184.17x M184.17y M184.18l",
  "M184.181 M183.181 M185.181 M186.181 M184.17w M184.17x M184.17y M184.18l M183.18n M184.18n",
  "M187.18l M183.17w M183.17x M183.17y M184.17w M184.17x M184.17y M187.18l M188.18l 2M17r.18r iV",
  "M17u.17w.18l 2M17u.17x.17w M17u.17x.18l M17u.17y.18l M17u.18l.17w M17u.18l.17x M17u.18l.17y",
  "2M17w.18l.17x M17x.18l.18q M17x.18l.18p M183.17x.17w M183.17w.17x M183.17w.18p 2M183.18l.17x",
  "M183.18l.17w 2M183.18l.18l 2M185.17x.17x M185.18l.18l 2M184.17x.18l M184.17w.18q 2M184.18l.17y",
  "2M184.18l.18l M186.17x.18p 2M186.17y.18l 2M187.18l.17x M187.18l.18l M187.18l.18q M189.17w.18l",
  "2M189.18l.18l M189.18l.18p M18a.18l.18l M18a.18l.18q M18a.18l.18p 2M18h.17y.18l M18i.18l.17x",
  "M18i.18l.18l M18k.17x.18l M18k.17x.18q M18k.17x.18p 2M18k.17w.17w 2M18k.17y.18l 2M18k.18l.17x",
  "M18l.17x.17w M18l.17x.18l M18l.17x.18q M18l.17w.17x M18l.17w.18l M18l.17y.17w M18l.17y.18l 2V",
  "M18l.17w.17y M18n.18l.17w M18n.18l.18l M18m.17x.18l M18m.17x.18p 2M18m.17w.18l M18m.17w.18p",
  "M18m.18l.18q M18m.18l.18p 2M18q.18l.18l M17s.17y.18q M17u.17w.18q M17u.17w.18p M17u.17y.18q",
  "M17u.17y.18p M17u.18l.18q M17u.18l.18p M17w.18l.18q M17w.17x.18p M17w.18l.18p M183.17y.18p",
  "M185.17x.18q M184.17x.18q M186.17x.18q M18k.17w.18q M18k.18l.18q M18q.17x.18q M18q.17w.18q",
  "M18q.18l.18q M18l.18l.18q M18i.18l.18q M18m.17x.18q M18i.18l.17x M18k.17x.18l M189.18l.18q",
  "M18j.18l.18q M18m.17w.17x M18l.17y.18q M18k.17w.18l M18j.18l.18l M18k.17w.18l M18m.17w.17x",
  "M17w.17x.18q M17x.17w.18q M18l.17w.18q M18h.18l.18q M17s.17x.18q M18j.18l.18l M189.17w.18l",
  "M185.18l.18l M183.17y.18q M18m.17w.18q 8V wX M185.18k.1ci M18i.18k.1ci M17r.18k.18k.18n",
  "M17r.18j.17s.181 M18l.17x.18l.17z M185.18k.189.18l M181.183.18o.18k M189.18k.18q.18n",
  "M18o.183.18k.18l M185.18k.18p M185.18k.18p.w.17r.18k.18k.18n.w.189.18k.18q.18n.w.18o.183.18k.18l",
  "M17w.18k.w.17w.18k.17r.18k.18n M181.1cc.17r.18k 3V gI W1e5g W14pc X 2W1e55 W1e5w W1e53 2W14ox 7X",
  "gV X W17vh W17vj 2M2n 2W1e6l W1e4c W1e4b 2W14px 2W14q3 2W14qb 2W14qf 4W14qd 2V W1e5o W1e5n",
  "4Mw.lh 3M2n W1e78 W14r4 2X W1e6x W1e6z W1e6v W1e7q W17wk 2W1e7l W1e5c W1e5b 2W14qx W1e7w W1e7u",
  "2W1e7r W1e7q W1e7c W1e7b W1e7d X W1e6k 2W1e85 W1e7f 4X Mw.18r M18g.18r Mw.18s V Mw.18t X Mw.18u",
  "M18g.18u Mw.18v M18g.18v Mw.18w M18g.18w Mw.18x M18g.18x Mw.18y M18g.18y 2W1d27 2W1d28 2W1d29",
  "2W1d2a 2W1d2b 3M17q 2M17r 4M17s 2M17t 4M17u 4M17v 4M17w 4M17x 4M17y 2M17z 2M180 2M181 2M182",
  "4M183 4M184 4M185 4M186 4M187 4M188 4M189 4M18a 4M18h 4M18i 4M18j 4M18k 4M18l 4M18m 4M18n 2M18o",
  "2M18p 4M18q 2M18k.17m 2M18k.17n 2M18k.17p 2M18k.17r 2X I X wW1ecg qW1ebk 10W1ecg 2W168q W1eer",
  "2W14ye W14yr W14ru W14s4 W14ue W14ud W14uc W14ub W14ua W14sp W14so W14sn W14to W14s4 W14un W14um",
  "W14ul W14uk 2W14uj W14ui W14uh W14ug W14uf W14ue W14ud W14uc W14ub W14ua W14u9 W14u8 W14u6 W14u5",
  "W14u4 6W14u3 W14u1 W14tz W14tx W14tv 5W14tt W14ts W14tr 6W14tq W14tp W14tm 2W14w5 I 2W1b4x W1b09",
  "W1b4y 2W1b09 3W1b50 6W1b0a W1b4m 3W1b57 W1b4j aW1b58 3X 6W1b35 2X 6W1b37 2X 6W1b39 2X 3W1b3b 3X",
  "2W1ef2 W1eeu Mw.lg W1ef2 W1ef4 W183h X W178m 4W17x5 W174d W1737 hX cV X qV X jV X 2V X fV 2X eV",
  "yX 3fV 5X 3V 4X 19V 3X 2gV X dV 3X V 1bX 1aV 3mX tV 3X 1dV fX sV 4X 10V 9X uV 5X 17V 5X uV X 11V",
  "4X eV 16X 14U14 3aV 2X aV 6X 10U14 4X 10V 4X 14V 8X 1gV bX V bU13 X fU13 X 7U13 X 2U13 X bV X fV",
  "X 7V X 2V 3X 1gV cX 8nV 9X mV aX 8V oX V 2W1fht W1fvh W1fjf W1fle X W1fj8 Wi76 W1fj8 W1fja",
  "2W1flh W1a7w W1fli W1fld W1fjb W1fl9 W1flc W1flf W1fjt W1fu6 W1fju W1flc W1fkk 2W1fjj W1flb",
  "U16js Wiz3 W1flc U16jq W1fki U16jp W1fvu 2W1fl9 W1fzo W1fl8 U16jl 2W1fl7 W1fl6 W1fk3 W1fk6 Wi86",
  "W1fk7 W1fl3 W17b3 X W1fkz 2W1fki W1fkt 3W1fqu U16j5 U16jo 1xX 6V 2X V X 18V X 2V 3X V 2X nV X",
  "20V 8X 9V 1cX jV X 2V 5X xV 3X rV 5X rV 12X 1kV 4X kV 2X 1eV X 2V 5X 8V X 3V X tV 2X 3V 4X aV 7X",
  "9V 7X 1sV wX 13V 4X cV 9X 1iV 3X tV 2X rV 5X qV 7X 4V cX 7V 28X 21V 1jX 1fU1s dX 1fV 7X 1aV 8X",
  "aV 6X gV mUw 3X tV 8X 2V 5sX vV X 16V X 3V 2X 2V gX 6V 8X 9V xX 1aV 8X 16V mX qV 12X sV kX nV 9X",
  "26V 4X 10V 9X 1qV X 5V dX pV 7X aV 6X 1hV X iV 8X 13V 9X 2oV X kV bX iV X 1bV 1qX 7V X V X 4V X",
  "fV X bV 6X 1nV 5X aV 6X 4V X 8V 2X 2V 2X mV X 7V X 2V X 5V X aV 2X 2V 2X 3V 2X V 6X V 5X 7V 2X",
  "7V 3X 5V bX aV X V 2X V X 12V X aV X V 2X V X 4V X aV X 2V 8X 2V tX 2kV X 5V uX 20V 8X aV 4mX",
  "1iV 2X 12V yX 1xV bX aV 6X dV jX 1mV 6X aV 6X kV sX rV 2X fV 4X nV 55X 1oV 2sX wUw 1fV cX 8V 2X",
  "V 2X 8V X 2V X uV X 2V 2X cV 9X aV 1yX 8V 2X 1aV 2X bV rX 20V 8X 2bV dX 21V 7X aV 2eX 8V 2gX yV",
  "eX aV 6X 9V X 19V X eV aX tV 3X wV 2X mV X eV 21X 7V X 2V X 18V 3X V X 2V X 9V 8X aV 6X 6V X 2V",
  "X 11V X 2V X 6V 7X aV 6X 18V 4X aV 6uX pV 7X hV X 15V 3X tV 2dX V fX 1eV dX pnV 2uX 33V X 5V bX",
  "5gV 218X 2rV dX tsV gX mV aX 32zV 5X g7V 5a1X 1mV 1c6X ftV 7X vV X aV 4X 29V X aV 6X uV 2X 6V aX",
  "1yV aX aV X 7V X lV 5X jV c0X 1mV 5iX wUw 1nV 5X pUr 2X pV 18X 23V 4X 1lV 7X hV 1sX 5V bX 7V 9X",
  "5p2V 15X wV 2pX 37V 6ppX 4V X 7V X 2V X 83V fX V tX 3V 2X V eX 4V 8X b0V 1s4X 2zV 5X dV 3X 9V 7X",
  "aV 2X 4V 4I 318X 5yV qW2iyd aW2j0g 3V 3X c4V 6X nV fX hV fX 1aV 2X nV 9X 38V 1oX 6uV aX 13V 2X",
  "1hV M2jx3.2jxh M2jx4.2jxh M2jx4.2jxh.2jxq M2jx4.2jxh.2jxr M2jx4.2jxh.2jxs M2jx4.2jxh.2jxt",
  "M2jx4.2jxh.2jxu eV 8I 1sV M2jzt.2jxh M2jzu.2jxh M2jzt.2jxh.2jxq M2jzu.2jxh.2jxq M2jzt.2jxh.2jxr",
  "M2jzu.2jxh.2jxr 16V lX 1yV 3eX kV cX kV cX 2fV 9X pV 3rX qW2kdb qW2ke1 qW2ker 7W2kfh X iW2kfh",
  "qW2kg7 qW2kgx W2khn X 2W2khn 2X W2khn 2X 2W2khn 2X 4W2khn X 8W2khn 4W2kid X W2kid X 7W2kid X",
  "bW2kid qW2kj3 qW2kjt 2W2kkj X 4W2kkj 2X 8W2kkj X 7W2kkj X qW2kl9 2W2klz X 4W2klz X 5W2klz X",
  "W2klz 3X 7W2klz X qW2kmp qW2knf qW2ko5 qW2kov qW2kpl qW2kqb qW2kr1 qW2krr qW2ksh qW2kt7 qW2ktx",
  "qW2kun qW2kvd W2kqb W2kj2 2X hW2k8n W2k8x 7W2k8n W2e9m hW2k9d 2Mqr 6W2k9d W2eah W2k9z W2k9x",
  "W2k9w W2k9l W2k9r W2k9t hW2ka9 W2kaj 7W2ka9 W2eb8 hW2kaz 2Mqr 6W2kaz W2ec3 W2kbl W2kbj W2kbi",
  "W2kb7 W2kbd W2kbf hW2kbv W2kc5 7W2kbv W2ecu hW2kcl 2Mqr 6W2kcl W2edp W2kd7 W2kd5 W2kd4 W2kct",
  "W2kcz W2kd1 hW2kdh W2kdr 7W2kdh W2eeg hW2ke7 2Mqr 6W2ke7 W2efb W2ket W2ker W2keq W2kef W2kel",
  "W2ken hW2kf3 W2kfd 7W2kf3 W2eg2 hW2kft 2Mqr 6W2kft W2egx W2kgf W2kgd W2kgc W2kg1 W2kg7 W2kg9",
  "2Mrh 2X aW2l5q aW2l60 aW2l6a aW2l6k aW2l6u i4V fX 5V X fV uoX vV 6X 6V 5xX 7V X hV 2X 7V X 2V X",
  "5V 5X 9W2m0w 3W2m0v bW2m0u W2m0s 2W2m0r W1pz5 W2lwy W2m0m W2m0l W2lwl W2ly8 W2lxd 9W2m1t 2W2m1s",
  "2W2m1q W2m1p 6W2m1o 2W2m1n W2lzq W2m1e W2m1g W2m17 W2lz4 W1q1n W2lz0 xX V 34X 19V 3X eV 2X aV 4X",
  "2V 8wX vV hX 1mV 5X V cwX 16V 5yX 17V 4X V 5cX vV X mV 8X 2V 68X 7V X 4V X 2V X fV X 5hV 2X gV",
  "15X yUy 16V 4X aV 4X 2V ltX 1wV 24X 1pV 5eX 2W2od5 W2od2 W2od0 X W2ocd W2od0 W2od6 W2ocx W2ocf",
  "4W2ocn W2od7 W2od2 W2ocv W2od8 W2ocw W2ode W2odc 2W2odn W2odl W2odk W2odf W2ode W2odd W2oby",
  "W2o9v W2oal W2oc0 X W2oe1 W2ody X W2od9 2X W2oe2 X W2odb 4W2odj W2oe3 W2ody W2odr W2oe4 W2ods X",
  "W2oe8 2W2oej W2oeh X W2oeb X W2oe9 6X W2oeu 4X W2oey X W2oe7 X W2oef X W2oef W2oez W2oeu X W2of0",
  "W2oeo X W2of4 2X W2ofd X W2of7 X W2of5 X W2obn X W2ods X W2oft W2ofq X W2of1 2X W2ofu W2ofl",
  "W2of3 W2ofb X 2W2ofb W2ofv W2ofq W2ofj W2ofw W2ofk X W2og0 2W2ogb W2og9 X W2og3 W2og2 W2og1",
  "W2oem X W2od9 X 2W2ogp W2ogm W2ogk 2W2ofx W2ogk W2ogq W2ogh W2ofz X 3W2og7 W2ogr W2ogm W2ogf",
  "W2ogs W2ogg W2ogy W2ogw 2W2oh7 W2oh5 W2oh4 W2ogz W2ogy W2ogx 5X W2ohl W2ohi W2ohg X W2ogt W2ohg",
  "W2ohm W2ohd W2ogv X 3W2oh3 W2ohn W2ohi W2ohb W2oho W2ohc W2ohu W2ohs 2W2oi3 W2oi1 W2oi0 W2ohv",
  "W2ohu W2oht 1gX 2V 7iX 18V 4X 2sV cX fV 2X fV X fV X 11V bX M1c.18 M1d.18 M1e.18 M1f.18 M1g.18",
  "M1h.18 M1i.18 M1j.18 M1k.18 M1l.18 5V M14.2p.15 M14.2q.15 M14.2r.15 M14.2s.15 M14.2t.15",
  "M14.2u.15 M14.2v.15 M14.2w.15 M14.2x.15 M14.2y.15 M14.2z.15 M14.30.15 M14.31.15 M14.32.15",
  "M14.33.15 M14.34.15 M14.35.15 M14.36.15 M14.37.15 M14.38.15 M14.39.15 M14.3a.15 M14.3b.15",
  "M14.3c.15 M14.3d.15 M14.3e.15 M9hw.37.9hx W2q4o W2q4a M2r.2s M3b.3e V qW2q4v M2w.3a M31.3a",
  "M37.2s M37.37 M34.34.3a M3b.2r qV M31.2r M31.2s M31.36 zV M2s.2y tV 1kX qV M9kr.9jf M9mb.9mb",
  "W2gr1 dX W26yt W28ca W29ty W2gr0 W2avc W28sb W1z5f W28ry W2aus W267t W241l W26bm W2a4v W27ip",
  "W2aa9 W26b3 W2a6b W21nj W239f W1ym2 W28tw W29rg W24gi W26xe W26s3 W2azt W2azl W1xwh W27uu W2ayo",
  "W29tn W26ug W1ygw W26zi W22ep W227t W29t8 W24l1 W2625 W2627 W239h W2a4n W29hg W1xpq 4X",
  "M9hw.kdo.9hx M9hw.fex.9hx M9hw.fik.9hx M9hw.i2x.9hx M9hw.m9l.9hx M9hw.jf7.9hx M9hw.nh3.9hx",
  "M9hw.gd9.9hx M9hw.k0n.9hx 7X W27jt W29uq eX 6V 4aX rdV 3X hV 3X dV 3X 62V 6X cV 4X V fX cV 4X",
  "1kV 8X aV 6X 14V 8X uV 2X cV 4X 2V eX 9V 13X 9kV 8X eV 2X dV 3X bV 3X 1lV X V 4X gV 2X cV 4X aV",
  "7X 43V X 2kV aW2sao V slX wyoV wX 3dqV 2X 4geV 2X 5rlV fX haV 1wiX W3qo3 W3qo9 W3qo1 W1crl W3qg4",
  "W3qdz W3qdn W3qbp W3q8e W3q7k W3q5f W3q64 W3vqm W1brn W3q2p W3q2j W3q24 W3q1m W1bzq W3vq2 W3q25",
  "W3q14 W1byj W3q0w W3q0k W3qkt W3q0e W3q06 Wk71 W3pyg W3py3 W3vpc W3pwl W3pwb W3pv4 W3pv0 W3vnz",
  "W3psu W3pst W3ps3 W3pri 2W3pr8 W3pqs W3ppf W3pp8 W3pp0 W3poc W3po3 3Mghr W1b0o W3jyd W3pm4 W3plk",
  "W1as5 W3pla W3pl5 W3pkl W3pge W3pj9 W3piu W3phz W3pge W3pe3 W3pde W3pbk W3pb5 2Mgw4 W3p9q W3p99",
  "W3p92 W3p8o W3oz9 W3p6u W3oza W3p4t W3p3v W3pzd W3omb W3ouc W3otb W3osn W3owa W3oro W3orq W3ooc",
  "W18xh W3omg W3omc W3oly W3olf W3ol8 W3ojh W18l4 W18jb W3ofq W3oeg W3oe5 W3ogd W3ocg W3vcp W3vcc",
  "W3o81 2Mi0u W17z8 W3o2y W3o2e W3o20 W3o1p W17q1 W3o1f W3o19 W3ndt W3o0j W3v91 W3nyv W3nyi W3nw9",
  "W3nxp W176f W3nsp W176f W3nrk W3nro W3nr8 2W3nog W3v4k W3nnr W3nml W3nm1 W3nku W3v3a W16h2 W3v2m",
  "W3niz W3nix W3niv W3nic Wgsd W3ngy 2M3035 W3gk2 2Misi W3v0v W1333 Wtry W3nef W3ne7 W3v08 W3ncy",
  "W3nbk W3nbb W3nae W3n6n W3uxz W3uyu W3n67 W15g0 W3n4u W3n1a W3n17 W3n16 W3n19 W3n00 W3mzh W3myi",
  "W3myx W3myn W3mxd W3mwu W3mwr W3mw2 W3mvs W3mtz W3mro W3mqq W3mnb W14mk W3mnw W3mpq W3mmr W3mm1",
  "W3mjd W14gd W3mhp W3mkb W3ml4 W3us4 W3mfu W3mfa W3meg W3mfj W3uqj W3m9l W3m8t W13nk W3m5k W3lxw",
  "W3m2s W3ulx W3m0u W3umg W3unh W3q68 W3q66 W3lxw W3m0p W3gvd W3svy W3lxd W3lxa W3lx5 W3lvh W3lvt",
  "W12xm W3ul1 W3lr9 W3luj W3lov W3lnh W12t2 W3lna W3lqe W3ljm W3uiy W3lie W3lfq W3lds W3l8j W12dl",
  "W3l76 W3ufq W3l5a W11zd W3l3x W3uec W3l35 W3l1x 2W3l17 W11m2 W17fx W11j3 W3kx8 W116n W3ku5 W3kts",
  "W3kwn W3krt W3kqq W3kp6 W3kqp W3kpm W3kp8 W3kow W1148 W3kr7 W3kk9 W3kij W3u8n W3kg0 W3kg5 W10sc",
  "W3klx W3kbl W10oi W10n7 W3k98 W3k62 W3k6u W3k6y W3u68 W3k5p W3k4b W3k4i W3k31 W1c6u W3jyv W103e",
  "W3jwi Wzuc W3jso W3jsc W3jrm Wzdn W3jqc W3jps Wz5d Wyz7 W3jji W3jj2 W3tz2 W3jie 2Mce0 W3jdz",
  "W3jdf W3jcv W3jcc W3jag W3tw8 W3j80 Wy67 W3j7c Wy3p W3j60 W16l6 W3j1m Wxi2 Wxhg Wxdl W3tqa W3tpz",
  "W3ivg Wx8u Wx8w Wx7u Wx75 2W3iuf W3iug W3ita W3tow W3irj W3tol W3tme Wwmo W3im8 W3ikj W3iis",
  "W3tke Ww8c W3if1 Ww56 Ww40 W3idj W3ib0 W3tih W3i8p W3i8g W3i8c Wvkw 2M3b1j W3i41 W3tcu Wv5i",
  "W3hy4 W3hy2 W3tbx Wuzp W3hqs W3t8n W3hq8 W3hqe W3hpm Wued W3hmx W3t64 W3hk7 W3hil W3hgr W3t4t",
  "Wtvu Wtv0 W3t3v Wtr0 W3h8c Wto9 W3h7n W3h4v W3h4l Wtcx Wtax W3h25 Wt7a W3h1r W134x W3t0s W3h00",
  "W3gxs W3szd W3gw7 W3oi9 Wstc Wssz W133q W133i W3gqy W3gqw W3e27 W3swz W3gn2 W3gn9 W3gms W3q3j",
  "W3gma W3gm9 W3gm0 W3gkw Ws4b W3gkz W3gjg W3ghj W3gfi W3gjd W3gf4 W3gdz W3gaw W3gi5 W3gev W3geu",
  "W3gef Wrxq Wrp6 Wrtd W3ssc W3g6v W3g6u W3g5w Wqg1 W3g3s Wrcx W3sr5 W3sr2 Wr9b Wr1b W3sqv W3fxf",
  "W3fx4 W3fwu W3fwt W3fv2 W3fw0 W3fsb W3ftk W3fpe W3fro W3fpu W3fp4 W3so8 W3fmn W3fls W3snd W3fj7",
  "W3fj5 Wpy6 W3ffz W3fft W3slv W3ff3 W3w27 Wpi5 Wpd2 W3si7 W3shz W3f3j W3f1f W3ex3 W3erh Woq3",
  "W3ep5 W3eok W3em3 W3ejk Wo89 W1brp W3ehb W3ehr W3egc W1blr W3ea2 W3e7b Wmxa Wmwk W3dxq W3dv6",
  "W3dub Wmnr W3du3 W3dm7 2W3dht W3dke W3d9u W3d93 Wlpv W3cyr W3ryy W3cxl Wlfe W3rws W3cq8 W3o02",
  "W3cnm Wkoh Wkil W3rt6 W3rsz W3cii Wk4x W3rre Wk13 2Mu17 W3cgn Wjt7 W3cbk W3ro0 W3c9n W3c66 W3c5g",
  "W3c3t W3rju Wiqh W3bw8 W3bnv W3bin W3rcv W3rc1 W3bfs Whmq W3rbt Whl9 Whdx Whab W3b6i W3r9c W3b4u",
  "W3b4q W3b4k W3b4b W3b45 W3b35 Wgm5 15uX 3t7V 5X 6juV f62uX 6oI 47bkX"]

/-- Which code points are combining marks. -/
def marks : List String := [
  "lcN 34M 7nN 7M 7bN 19M N M N 2M N 2M N M 20N bM 1cN lM gN M 2tN 7M 2N 6M 2N 2M N 4M zN M uN rM",
  "2jN bM 1mN 9M 9N M oN 4M N 9M N 3M N 5M 17N 3M 1oN 8M 16N oM N xM 1iN 3M N iM N 7M aN 2M tN 3M",
  "1kN M N 7M 2N 2M 2N 3M 9N M aN 2M qN M 2N 3M 1kN M N 5M 4N 2M 2N 3M 3N M uN 2M 3N M bN 3M 1kN M",
  "N 8M N 3M N 3M kN 2M mN 6M N 3M 1kN M N 7M 2N 2M 2N 3M 7N 3M aN 2M uN M 1nN 5M 3N 3M N 4M 9N M",
  "14N 5M 1jN M N 7M N 3M N 4M 7N 2M bN 2M tN 3M 1kN M N 7M N 3M N 4M 7N 2M bN 2M fN M cN 4M 1jN 2M",
  "N 7M N 3M N 4M 9N M aN 2M tN 3M 1yN M 4N 6M N M N 8M iN 2M 1pN M 2N 7M cN 8M 2qN M 2N 9M bN 7M",
  "21N 2M rN M N M N M 4N 2M 1dN kM N 2M 5N bM N 10M 9N M 2sN kM nN 4M 4N 3M N 3M 2N 7M 3N 4M dN cM",
  "N M aN 4M jjN 3M qaN 4M sN 3M tN 2M uN 2M 1sN wM 9N M 19N 3M N M 39N 2M yN M 3aN cM 4N cM 63N 5M",
  "1lN aM N tM 2N M 1cN vM 1dN 5M 1bN hM 12N 9M cN 3M uN dM 1kN eM 1cN kM 48N 3M N lM 4N M 6N M 2N",
  "3M 5iN 1sM k0N xM 2daN 3M 3xN M 2oN wM feN 6M 2xN 2M n9wN 4M N aM wN 2M 28N 2M 7kN M 3N M 4N M",
  "nN 5M 4N M 2bN 2M 1eN iM qN iM dN M 12N 8M pN dM 18N 4M 1bN eM 10N M 1vN eM cN M 8N 2M 19N 3M",
  "1eN M N 3M 2N 2M 5N 2M N M 15N 5M 5N 2M 6kN 8M N 2M fn4N M khN gM gN gM r1N M 6aN M 45N 5M 1aeN",
  "3M N 2M 5N 4M 14N 3M 4N M 4lN 2M fxN 4M arN 2M 28N 3M 1yN bM 1dN 4M 3eN 3M 1hN fM 15N M 2N 2M aN",
  "4M 19N bM 7N M 1pN 3M 10N eM gN 2M 18N M cN 3M 1cN eM 8N 4M N 2M 2kN cM 6N M 2N M 4dN cM lN 4M",
  "1jN 2M N 7M 2N 2M 2N 3M 9N M aN 2M 2N 7M 3N 5M 5cN iM nN M 29N kM 6jN 7M 2N 9M rN 2M 2aN hM 2yN",
  "dM 2tN fM 74N fM 6tN 6M N 2M 2N 4M N M N 2M 3xN 7M 2N 7M 3N M sN aM 14N 7M N 4M 8N M 9N bM 1aN",
  "gM b9N 8M N 8M 2aN mM N eM 3eN 6M 3N M N 2M N 7M N M 1uN 5M N 2M N 5M 9nN 4M 9N 2M N M 1cN 7M 3N",
  "5M 459N M 6N fM asaN 5M 1nN 7M t4N M N 1jM 7N 4M 29N M bN 2M f57N 2M 3mpN 1aM 2N nM f2N 5M 3N 6M",
  "8N 8M 2N 7M uN 4M 44N 3M 1izN 1jM 4N 1eM 8N M eN M mN 5M N fM 11sN 7M N hM 2N 7M N 2M N 5M 2sN M",
  "4gN 7M afN M 1pN 4M e4N 4M rkN 7M 31N 7M gzhxN 6oM 47bkN"]

/-- The canonical combining classes. -/
def combining : List String := [
  "lcC lC6e C6g 4C64 C6g C60 5C64 2C5m 4C64 2C5m bC64 5C1 4C64 8C6e C6o C6e 3C64 3C6e 2C64 C 3C6e",
  "4C64 C6e C6g 2C64 C6e C6h 2C6i C6h 2C6i C6h dC6e 7nC 5C6e 7dC C64 4C6e C64 3C6e C66 C64 6C6e",
  "6C64 2C6e C64 2C6e C66 C6c C6e Ca Cb Cc Cd Ce Cf Cg Ch Ci 2Cj Ck Cl Cm C Cn C Co Cp C C6e C64 C",
  "Ci 20C 8C6e Cu Cv Cw 1cC Cr Cs Ct Cu Cv Cw Cx Cy 2C6e 2C64 5C6e C64 2C6e C64 gC Cz 2tC 7C6e 2C",
  "4C6e C64 C6e 2C 2C6e C C64 2C6e C64 zC C10 uC C6e C64 2C6e C64 2C6e 3C64 C6e 2C64 C6e C64 3C6e",
  "C64 C6e C64 C6e C64 C6e C64 2C6e 4gC 7C6e C64 C6e 9C C64 oC 4C6e C 9C6e C 3C6e C 5C6e 17C 3C64",
  "1oC C6e 3C64 4C6e 16C 5C6e 5C64 eC6e C C64 2C6e C64 2C6e C64 3C6e 3C64 Cr Cs Ct 3C6e C64 2C6e",
  "2C64 5C6e 1oC C7 gC C9 3C C6e C64 2C6e 2vC C7 gC C9 1cC C6e 1pC C7 gC C9 32C C7 gC C9 32C C7 gC",
  "C9 3jC C9 32C C7 gC C9 7C C2c C2j 2tC C7 gC C9 31C 2C9 gC C9 3gC C9 31C 2C2v C9 dC 4C2z 30C 2C3a",
  "C9 dC 4C3e 24C 2C64 rC C64 C C64 C C60 1jC C3l C3m C C3o 5C 4C3m 2C C3m C 2C6e C9 C 2C6e 1qC C64",
  "34C C7 C 2C9 2aC C64 jzC 3C6e qcC 2C9 uC C9 4dC C9 aC C6e 5nC C6c 3zC C66 C6e C64 63C C6e C64",
  "1zC C9 kC 8C6e 2C C64 1cC 5C6e 6C64 2C6e C64 C 2C64 2C6e 2C64 5C6e C64 4C6e 2tC C7 fC C9 12C C6e",
  "C64 7C6e 1iC 2C9 1mC C7 bC 2C9 1vC C7 48C 3C6e C C1 5C64 2C6e 4C64 C6e C 7C1 4C C64 6C C6e 3C",
  "2C6e 5iC 2C6e C64 7C6e C64 2C6e C6i C5y C64 C5m 11C6e C6g 2C6c C64 C62 C6e C6h C64 C6e C64 k0C",
  "2C6e 2C1 4C6e 3C1 2C6e 4C C6e 3C 2C1 C6e C64 C6e 2C1 4C64 C6e 2daC 3C6e 3xC C9 2oC wC6e feC C62",
  "C6c C6g C66 2C68 2xC 2C8 n9wC C6e 4C aC6e wC 2C6e 28C 2C6e 7oC C9 11C C9 47C C9 rC iC6e 1lC 3C64",
  "11C C9 2nC C7 cC C9 6nC C6e C 2C6e C64 2C 2C6e 5C 2C6e C C6e 1gC C9 6uC C9 fn4C Cq ldC 7C6e 7C64",
  "2C6e r1C C64 6aC C64 45C 5C6e 1aqC C64 C C6e 14C C6e C1 C64 4C C9 4lC C6e C64 fxC 4C6e arC 2C6e",
  "28C 3C64 1yC 2C64 3C6e C64 C6e 4C64 1dC C6e C64 C6e C64 5cC C9 15C C9 eC C9 1lC C9 C7 1xC 3C6e",
  "1cC 2C9 1qC C7 24C C9 9C C7 2yC C9 C7 4yC C7 C9 28C 2C7 gC C9 oC 7C6e 3C 5C6e 5pC C9 3C C7 nC",
  "C6e 2rC C9 C7 6zC C9 C7 3iC C9 3aC C9 C7 37C C9 7hC C9 C7 76C 2C9 4C C7 4cC C9 2bC C9 iC C9 29C",
  "C9 bpC C9 76C C7 C 2C9 29C C9 btC 2C9 ey5C 5C1 1nC 7C6e xlC 2C6 f58C C1 43qC 2C60 3C1 3C C6a",
  "5C60 8C 8C64 2C 5C6e 2C64 uC 4C6e 44C 3C6e 2pnC 7C6e C hC6e 2C 7C6e C 2C6e C 5C6e 2sC C6e 4gC",
  "7C6e afC C6e 1pC 4C6e e4C 2C6g C64 C6e rkC 7C64 31C 6C6e C7 l705C"]

/-- The bidirectional classes. -/
def direction : List String := [
  "9B 5X eB 5X 2O 3T 5O S C S 2C aE C 12O qL 4O yB O 4T aO 6T 15O oL O chL 2O 7L eO 2L sO L hO 35N",
  "4L 2O 3jL 2O 3vL 8N 73L 5O 2T 19N R N R 2N R 2N R 9N 1iR 2O A 2T A C A 2O bN 1cA lN aD T 2D 3A N",
  "2tA 8N O 6N 2A 2N O 4N 2A aE nA N uA tN 2hA bN fA 17R 9N 2R 4O 3R N oR 4N R 9N R 3N R 7N 15R 5N",
  "2R 1bA 9R 8N 16A 1lN 1jL N L N 4L 8N 4L N 3L fN 2L 2N tL N 1mL N 4L 6N 6L N kL 4N cL 2T 7L T 2L",
  "5N 1lL 2N 3L rN kL 2N 3L N bL 2N 1lL N 4L 8N 4L 3N iL 4N bL 8T L 8N 1mL N 2L N L 6N 6L aN bL 4N",
  "sL N 1pL N cL 3N zL 6O T 6O N 3L N 1jL N L 3N 5L iN aL 4N iL 7O 2L N 1mL N fL 9N dL 4N qL 2N 1lL",
  "2N 4L 5N 7L N kL 4N rL N 20L 5N 3L 6N 2hL N 2L bN T 7L 8N 2qL N 2L 9N bL 8N 20L 2N rL N L N L N",
  "4O 1fL eN L 5N L 2N 5L 1dN 8L N 2uL 4N L 6N L 2N 2L 2N pL 2N 4L 3N gL 4N dL N 2L 2N 6L N fL N",
  "jjL 3N 1cL gO 2oL O iiL 5O 36L 3N tL 2N uL eN iL eN 1jL 7N 8L N 2L bN 7L T L 3N gL wO 39L 2N yL",
  "N 3aL 3N 4L 2N 9L N 6L 7N 6O 48L yO nL 2N 2L 3N 1kL N L 9N L N 2L 8N 6L dN 1cL vN 1dL 4N 1cL N L",
  "5N L N 5L N 14L 9N cL 2N wL 4N 2L 2N L 3N 1kL N L 2N 3L N L 3N 1mL 8N 2L 5N 45L 3N L dN L 7N 4L",
  "N 6L N 3L 2N 5iL 1tN ejL 4B wO 5T fO C 2jO xT fL 1gN 16O cT kO 1oL 3sO S T 82O 1xL qO L lyO L",
  "9fO 74L moO 51L 7O 3L 4N 6L 7O 3jL N 2oL wN edO 3L pO 9L 4N 2L O 6L 4O 2L 4O 2gL 4N 3L O 2iL O",
  "5gL 1cO 5hsL 1sO h3kL 1sO 8tL 3O 2nL 4N O aN 3O tL 2N 28L 2N eL zO 2tL O 3dL N 3L N 4L N pL 2N L",
  "4O 4N 8L 8T 1gL cO 1wL aN iL iN dL N 12L 8N pL bN 1aL 3N 1cL N 2L 4N 2L 2N 13L N 1vL 6N 2L 2N 2L",
  "bN 3L N 8L N 1bL N 1fL N L 3N 2L 2N 5L 2N L N 16L 2N 8L bN 2xL 2eO 11L N 2L N 4L 3N fn2L 44N hA",
  "ajL 6aO 11N 1aO b1A 75L O 1qL 25O 3L 1sO 19L 3nN 2oL N vE 3aL aN w0L 7zR O 69R fN 14R 8N 4lR 6N",
  "26R 7O cgR 10A cN gD 80R wD 17R 2N 28R 3N 1cR mA bN vA iR 4N 3eR L N 1iL fN bL kO aL N 2L 2N aL",
  "3N 1dL 4N 2L 2N 7L eN 1cL 3N 10L 5N L 9N 1pL N cL 2N 1gL 9N aL 4N 2L N 2nL 3N 2L N L 2N 6L N 2L",
  "1rN 2nL N 3L dN gL 2N 1lL 2N 3L N 11L qN 54L 8N 2L 3N L N nL N 2cL 6N L N 4L 2N L 2N 6mL 6N 4L",
  "2N L 2N rL 10N 1fL 8N 2L N L 2N vL wO 17L N L N 2L 6N L N 2tL 3N 2L 4N L 9N 73L 9N L 2N 74L 2N L",
  "N 4L N 40L 8N 4L N wL 6N 2L 2N 14L 6N 2L 4N 8L 9N L 6N 2L 3N 1aL dN L 2N baL eN 2cL nN L 7N L 2N",
  "L 23N 1dL lN L 9N 1sL 3N 2L N L N 9nL 2N bL 2N 1gL 8N 2L N L N 42L 8O 4T uO 401L N 6L pN as0L 5N",
  "1nL 7N t4L N 1rL 4N 27L O L cN f59L 2N 3mpL 28N evL 3N hL 8N 2L 7N uL 4N 1nL 2hO 3N 3fO 1sL 2oO",
  "1b4L 1jN 4L 1eN 8L N eL N mL v9N 74L 74N 1cL 7N afL iN 18L 4N fL cxT sL 4N lsL 5sR 2aN yR 7N meR",
  "hrA gwO tL 3O 1pL 1lO 3eL 2owO l2ioL"]

/-- The joining types. -/
def joining : List String := [
  "4tU T giU 34T 7nU 7T 7bU 19T U T U 2T U 2T U T 20U bT U T 3U D U 4R D R D R 5D 4R dD C 7D R 2D",
  "lT eU 2D T 3R U 3R gD iR 12D R 2D 9R D R D R 2D 2R U R 7T 2U 6T 2U 2T U 4T 2R aU 3D 2U D fU T R",
  "T 3D 5R 4D R 9D R D R D R 2D R rT 2U R bD 3R fD 2R 4D R D 2R 3D 2R 6D 12U bT pU xD 9T 6U C 2U T",
  "oU 4T U 9T U 3T U 5T iU R 5D 2R D R aD R D 3R 3T 4U D U 4D U R D 2R 5U jR 3C D 2U 5D R D 7U 9T",
  "aD 3R U R 2D 2R 6D R fD U oT U wT 1jU T U T 4U 8T 4U T 3U 7T aU 2T tU T 1mU T 4U 4T 8U T kU 2T",
  "qU T 2U 2T 1lU T 4U 2T 4U 2T 2U 3T 3U T uU 2T 3U T bU 2T 1lU T 4U 5T U 2T 4U T kU 2T mU 6T U T",
  "1mU T 2U T U 4T 8U T 7U 2T bU 2T uU T 1pU T cU T 1eU T 3U T 1jU T U 3T 5U 3T U 4T 7U 2T bU 2T tU",
  "T 1mU T 2U T 6U T 5U 2T kU 2T sU 2T 1lU 2T 4U 4T 8U T kU 2T tU T 20U T 7U 3T U T 2iU T 2U 7T cU",
  "8T 2qU T 2U 9T bU 7T 21U 2T rU T U T U T 1jU eT U 5T U 2T 5U bT U 10T 9U T 2uU 4T U 6T U 2T 2U",
  "2T pU 2T 4U 3T gU 4T dU T 2U 2T 6U T fU T jjU 3T qaU 3T tU 2T uU 2T uU 2T 1sU 2T U 7T 8U T 2U bT",
  "9U T 15U D 2U C 3T U T gU 2hD cU 2T yD T D 39U 3T 4U 2T 9U T 6U 3T 63U 2T 2U T 1mU T U 7T U T U",
  "T 2U 8T 6U aT 2U T 1cU 1aT 2U cT kU 4T 1cU T U 5T U T 5U T 14U 9T cU 2T wU 4T 2U 2T U 3T 1kU T U",
  "2T 3U T U 3T 1mU 8T 2U 2T 48U 3T U dT U 7T 4U T 6U T 3U 2T 5iU 1sT ejU T U C 2T qU 5T 1dU 5T 5U",
  "6T 2oU xT 2daU 3T 3xU T 2oU wT feU 4T 2zU 2T n9wU 4T U aT wU 2T 28U 2T 7kU T 3U T 4U T pU 2T 5U",
  "T jU 1eD L 29U 2T qU iT dU T 12U 8T pU bT 1aU 3T 1cU T 2U 4T 2U 2T 13U T 1vU 6T 2U 2T 2U 2T cU T",
  "8U T 1bU T 1fU T U 3T 2U 2T 5U 2T U T 16U 2T 8U T 6mU T 2U T 4U T fn4U T khU gT gU gT 5rU T 6xU",
  "3T e9U T 6aU T 45U 5T 1aeU 3T U 2T 5U 4T 14U 3T 4U T 3kU 5D R U R U 2R 2U L 5R 4D L 5D R 3D R 2U",
  "R 2T 4U 4D R 40U D R D 3R 3D R 2D R D 2R D R nU 4R 2D 9dU L xD R D 4T 1tU 5T 8tU 2T lU R 2D U 2D",
  "1eU 6T 1cU 3D R hD U bT 3D R rU 4D 2R cD 4T 16U D U 2D 3R U D 2R 2D R 2D U D 2R D 4U R D L 1hU T",
  "1iU fT 15U T 2U 2T aU 3T 1dU 4T 2U 2T 7U T 1pU 3T 10U 5T U 8T 1qU T cU 2T 1gU 9T aU 4T 2U T 2nU",
  "3T 2U T U 2T 6U T 2U T 4dU T 3U 8T lU 2T 1lU 2T 3U T 11U 7T 3U 5T 1yU 6T dU T U T U T eU 2T 2dU",
  "8T 2U 3T U T nU T 2cU 6T U T 4U 2T U 2T 6mU 4T 6U 2T U 2T rU 2T 2dU 8T 2U T U 2T 2yU T U T 2U 6T",
  "U T 2tU T U T 2U 4T U 5T 77U 9T U 2T 74U 2T U T 4U T 40U 4T 2U 2T 4U T wU aT 14U 6T 2U 4T 8U T",
  "9U 6T 2U 3T 1aU dT U 2T 5iU T U 3T U T 5lU 7T U 6T U T 2aU mT 2U 7T U 2T U 2T 3eU 6T 3U T U 2T U",
  "7T U T 20U 2T 3U T U T 9nU 2T bU 2T 1gU 5T 5U T U T nU T 445U hT 6U fT 8ugU cT 3U 3T 1xcU 5T 1nU",
  "7T t4U T 1rU 4T 29U T f5kU 2T U 4T 3mkU 1aT 2U nT f4U 3T 9U gT 2U 7T uU 4T 44U 3T 1izU 1jT 4U",
  "1eT 8U T eU T mU 5T U fT 11sU 7T U hT 2U 7T U 2T U 5T 2sU T 4gU 7T afU T 1pU 4T e4U 4T 72U 2T",
  "6rU T 2U T 7U 2T 5U T d6U 7T 15U 1wD 8T gzatU T uU 2oT 3kU 6oT 47bkU"]

/-- The pairs that compose, by the character they compose into. -/
def composites : List String := [
  "5c.1t.lc 1.1t.ld 1.1t.le 1.1t.lf 1.1t.lk 1.1t.lm 2.1v.mf 1.1x.lc 1.1x.ld 1.1x.le 1.1x.lk 1.21.lc",
  "1.21.ld 1.21.le 1.21.lk 2.26.lf 1.27.lc 1.27.ld 1.27.le 1.27.lf 1.27.lk 3.2d.lc 1.2d.ld 1.2d.le",
  "1.2d.lk 1.2h.ld 3.2p.lc 1.2p.ld 1.2p.le 1.2p.lf 1.2p.lk 1.2p.lm 2.2r.mf 1.2t.lc 1.2t.ld 1.2t.le",
  "1.2t.lk 1.2x.lc 1.2x.ld 1.2x.le 1.2x.lk 2.32.lf 1.33.lc 1.33.ld 1.33.le 1.33.lf 1.33.lk 3.39.lc",
  "1.39.ld 1.39.le 1.39.lk 1.3d.ld 2.3d.lk 1.1t.lg 1.2p.lg 1.1t.li 1.2p.li 1.1t.mg 1.2p.mg 1.1v.ld",
  "1.2r.ld 1.1v.le 1.2r.le 1.1v.lj 1.2r.lj 1.1v.lo 1.2r.lo 1.1w.lo 1.2s.lo 3.1x.lg 1.2t.lg 1.1x.li",
  "1.2t.li 1.1x.lj 1.2t.lj 1.1x.mg 1.2t.mg 1.1x.lo 1.2t.lo 1.1z.le 1.2v.le 1.1z.li 1.2v.li 1.1z.lj",
  "1.2v.lj 1.1z.mf 1.2v.mf 1.20.le 1.2w.le 3.21.lf 1.2x.lf 1.21.lg 1.2x.lg 1.21.li 1.2x.li 1.21.mg",
  "1.2x.mg 1.21.lj 4.22.le 1.2y.le 1.23.mf 1.2z.mf 2.24.ld 1.30.ld 1.24.mf 1.30.mf 1.24.lo 1.30.lo",
  "5.26.ld 1.32.ld 1.26.mf 1.32.mf 1.26.lo 1.32.lo 4.27.lg 1.33.lg 1.27.li 1.33.li 1.27.ln 1.33.ln",
  "3.2a.ld 1.36.ld 1.2a.mf 1.36.mf 1.2a.lo 1.36.lo 1.2b.ld 1.37.ld 1.2b.le 1.37.le 1.2b.mf 1.37.mf",
  "1.2b.lo 1.37.lo 1.2c.mf 1.38.mf 1.2c.lo 1.38.lo 3.2d.lf 1.39.lf 1.2d.lg 1.39.lg 1.2d.li 1.39.li",
  "1.2d.lm 1.39.lm 1.2d.ln 1.39.ln 1.2d.mg 1.39.mg 1.2f.le 1.3b.le 1.2h.le 1.3d.le 1.2h.lk 1.2i.ld",
  "1.3e.ld 1.2i.lj 1.3e.lj 1.2i.lo 1.3e.lo y.27.m3 1.33.m3 e.2d.m3 1.39.m3 t.1t.lo 1.2p.lo 1.21.lo",
  "1.2x.lo 1.27.lo 1.33.lo 1.2d.lo 1.39.lo 1.64.lg 1.70.lg 1.64.ld 1.70.ld 1.64.lo 1.70.lo 1.64.lc",
  "1.70.lc 2.5g.lg 1.6c.lg 1.fa.lg 1.fb.lg 1.5i.lg 1.6e.lg 3.1z.lo 1.2v.lo 1.23.lo 1.2z.lo 1.27.mg",
  "1.33.mg 1.dm.lg 1.dn.lg 1.c7.lo 1.ia.lo 1.2y.lo 4.1z.ld 1.2v.ld 3.26.lc 1.32.lc 1.5h.ld 1.6d.ld",
  "1.5i.ld 1.6e.ld 1.60.ld 1.6w.ld 1.1t.lr 1.2p.lr 1.1t.lt 1.2p.lt 1.1x.lr 1.2t.lr 1.1x.lt 1.2t.lt",
  "1.21.lr 1.2x.lr 1.21.lt 1.2x.lt 1.27.lr 1.33.lr 1.27.lt 1.33.lt 1.2a.lr 1.36.lr 1.2a.lt 1.36.lt",
  "1.2d.lr 1.39.lr 1.2d.lt 1.39.lt 1.2b.me 1.37.me 1.2c.me 1.38.me 3.20.lo 1.2w.lo 7.1t.lj 1.2p.lj",
  "1.1x.mf 1.2t.mf 1.5y.lg 1.6u.lg 1.5x.lg 1.6t.lg 1.27.lj 1.33.lj 1.fi.lg 1.fj.lg 1.2h.lg 1.3d.lg",
  "9e.4o.ld 1.pd.ld 2.ph.ld 1.pj.ld 1.pl.ld 2.pr.ld 2.px.ld 1.q1.ld 1.qy.ld q.pl.lk 1.px.lk 1.q9.ld",
  "1.qd.ld 1.qf.ld 1.qh.ld 1.qz.ld q.qh.lk 1.qt.lk 1.qn.ld 1.qt.ld 1.qx.ld 5.r6.ld 1.r6.lk 18.t1.lc",
  "1.t1.lk 2.sz.ld 4.sm.lk 5.t6.ld 1.t4.lc 1.tf.li b.t4.li w.u0.li n.tx.lc 1.tx.lk 2.tv.ld 4.uu.lk",
  "5.u2.ld 1.u0.lc 1.ub.li o.vo.lr 1.vp.lr 22.t2.li 1.ty.li e.sw.li 1.ts.li 1.sw.lk 1.ts.lk 3.t1.li",
  "1.tx.li 3.yg.lk 1.yh.lk 1.t2.lk 1.ty.lk 1.t3.lk 1.tz.lk 3.t4.lg 1.u0.lg 1.t4.lk 1.u0.lk 1.ta.lk",
  "1.u6.lk 3.yw.lk 1.yx.lk 1.tp.lk 1.ul.lk 1.tf.lg 1.ub.lg 1.tf.lk 1.ub.lk 1.tf.ln 1.ub.ln 1.tj.lk",
  "1.uf.lk 3.tn.lk 1.uj.lk 89.17r.18z 1.17r.190 1.18o.190 1.17r.191 1.18q.190 4a.1cl.190 2.1c1.190",
  "h.1ci.190 gm.1t4.1to 8.1tc.1to 3.1tf.1to 47.1xj.1xa 1.1xj.1xz ak.287.28m 3.287.27y 1.287.28n",
  "20.2aa.2c7 1i.2bq.2bi 1.2br.2bi 1.2bq.2c7 3g.2fa.2fq 3c.2in.2j9 7.2iu.2j9 1.2iu.2ja 2.2iu.2iq",
  "1.2iy.2j9 3j.2me.2m6 1.2mf.2m6 1.2me.2mv 3y.2qh.2q2 2.2qh.2q7 1.2qk.2q2 1.2qh.2qn g8.36t.372",
  "25c.5c5.5dh 2.5c7.5dh 2.5c9.5dh 2.5cb.5dh 2.5cd.5dh 4.5ch.5dh 15.5dm.5dh 2.5do.5dh 3.5dq.5dh",
  "1.5dr.5dh 2.5du.5dh jh.1t.md 1.2p.md 1.1u.lj 1.2q.lj 1.1u.mb 1.2q.mb 1.1u.mp 1.2q.mp 1.5j.ld",
  "1.6f.ld 1.1w.lj 1.2s.lj 1.1w.mb 1.2s.mb 1.1w.mp 1.2s.mp 1.1w.mf 1.2s.mf 1.1w.ml 1.2s.ml 1.7m.lc",
  "1.7n.lc 1.7m.ld 1.7n.ld 1.1x.ml 1.2t.ml 1.1x.mo 1.2t.mo 1.fc.li 1.fd.li 1.1y.lj 1.2u.lj 1.1z.lg",
  "1.2v.lg 1.20.lj 1.2w.lj 1.20.mb 1.2w.mb 1.20.lk 1.2w.lk 1.20.mf 1.2w.mf 1.20.mm 1.2w.mm 1.21.mo",
  "1.2x.mo 1.5r.ld 1.6n.ld 1.23.ld 1.2z.ld 1.23.mb 1.2z.mb 1.23.mp 1.2z.mp 1.24.mb 1.30.mb 1.5yu.lg",
  "1.5yv.lg 1.24.mp 1.30.mp 1.24.ml 1.30.ml 1.25.ld 1.31.ld 1.25.lj 1.31.lj 1.25.mb 1.31.mb 1.26.lj",
  "1.32.lj 1.26.mb 1.32.mb 1.26.mp 1.32.mp 1.26.ml 1.32.ml 1.5x.ld 1.6t.ld 1.5x.lk 1.6t.lk 1.98.lc",
  "1.99.lc 1.98.ld 1.99.ld 1.28.ld 1.34.ld 1.28.lj 1.34.lj 1.2a.lj 1.36.lj 1.2a.mb 1.36.mb 1.5zu.lg",
  "1.5zv.lg 1.2a.mp 1.36.mp 1.2b.lj 1.37.lj 1.2b.mb 1.37.mb 1.9m.lj 1.9n.lj 1.9s.lj 1.9t.lj",
  "1.602.lj 1.603.lj 1.2c.lj 1.38.lj 1.2c.mb 1.38.mb 1.2c.mp 1.38.mp 1.2c.ml 1.38.ml 1.2d.mc",
  "1.39.mc 1.2d.mo 1.39.mo 1.2d.ml 1.39.ml 1.a0.ld 1.a1.ld 1.a2.lk 1.a3.lk 1.2e.lf 1.3a.lf 1.2e.mb",
  "1.3a.mb 1.2f.lc 1.3b.lc 1.2f.ld 1.3b.ld 1.2f.lk 1.3b.lk 1.2f.lj 1.3b.lj 1.2f.mb 1.3b.mb 1.2g.lj",
  "1.3c.lj 1.2g.lk 1.3c.lk 1.2h.lj 1.3d.lj 1.2i.le 1.3e.le 1.2i.mb 1.3e.mb 1.2i.mp 1.3e.mp 1.2w.mp",
  "1.38.lk 1.3b.lm 1.3d.lm 2.an.lj 5.1t.mb 1.2p.mb 1.1t.ll 1.2p.ll 1.5e.ld 1.6a.ld 1.5e.lc 1.6a.lc",
  "1.5e.ll 1.6a.ll 1.5e.lf 1.6a.lf 1.61s.le 1.61t.le 1.76.ld 1.77.ld 1.76.lc 1.77.lc 1.76.ll",
  "1.77.ll 1.76.lf 1.77.lf 1.61s.li 1.61t.li 1.1x.mb 1.2t.mb 1.1x.ll 1.2t.ll 1.1x.lf 1.2t.lf",
  "1.5m.ld 1.6i.ld 1.5m.lc 1.6i.lc 1.5m.ll 1.6i.ll 1.5m.lf 1.6i.lf 1.62g.le 1.62h.le 1.21.ll",
  "1.2x.ll 1.21.mb 1.2x.mb 1.27.mb 1.33.mb 1.27.ll 1.33.ll 1.5w.ld 1.6s.ld 1.5w.lc 1.6s.lc 1.5w.ll",
  "1.6s.ll 1.5w.lf 1.6s.lf 1.630.le 1.631.le 1.bk.ld 1.bl.ld 1.bk.lc 1.bl.lc 1.bk.ll 1.bl.ll",
  "1.bk.lf 1.bl.lf 1.bk.mb 1.bl.mb 1.2d.mb 1.39.mb 1.2d.ll 1.39.ll 1.bz.ld 1.c0.ld 1.bz.lc 1.c0.lc",
  "1.bz.ll 1.c0.ll 1.bz.lf 1.c0.lf 1.bz.mb 1.c0.mb 1.2h.lc 1.3d.lc 1.2h.mb 1.3d.mb 1.2h.ll 1.3d.ll",
  "1.2h.lf 1.3d.lf 7.q9.lv 1.q9.lw 1.64g.lc 1.64h.lc 1.64g.ld 1.64h.ld 1.64g.n6 1.64h.n6 1.pd.lv",
  "1.pd.lw 1.64o.lc 1.64p.lc 1.64o.ld 1.64p.ld 1.64o.n6 1.64p.n6 1.qd.lv 1.qd.lw 1.64w.lc 1.64x.lc",
  "1.64w.ld 1.64x.ld 3.ph.lv 1.ph.lw 1.654.lc 1.655.lc 1.654.ld 1.655.ld 3.qf.lv 1.qf.lw 1.65c.lc",
  "1.65d.lc 1.65c.ld 1.65d.ld 1.65c.n6 1.65d.n6 1.pj.lv 1.pj.lw 1.65k.lc 1.65l.lc 1.65k.ld 1.65l.ld",
  "1.65k.n6 1.65l.n6 1.qh.lv 1.qh.lw 1.65s.lc 1.65t.lc 1.65s.ld 1.65t.ld 1.65s.n6 1.65t.n6 1.pl.lv",
  "1.pl.lw 1.660.lc 1.661.lc 1.660.ld 1.661.ld 1.660.n6 1.661.n6 1.qn.lv 1.qn.lw 1.668.lc 1.669.lc",
  "1.668.ld 1.669.ld 3.pr.lv 1.pr.lw 1.66g.lc 1.66h.lc 1.66g.ld 1.66h.ld 3.qt.lv 1.qt.lw 1.66o.lc",
  "1.66p.lc 1.66o.ld 1.66p.ld 1.66o.n6 1.66p.n6 2.px.lw 2.66x.lc 2.66x.ld 2.66x.n6 1.qx.lv 1.qx.lw",
  "1.674.lc 1.675.lc 1.674.ld 1.675.ld 1.674.n6 1.675.n6 1.q1.lv 1.q1.lw 1.67c.lc 1.67d.lc 1.67c.ld",
  "1.67d.ld 1.67c.n6 1.67d.n6 1.q9.lc 2.qd.lc 2.qf.lc 2.qh.lc 2.qn.lc 2.qt.lc 2.qx.lc 4.64g.n9",
  "1.64h.n9 1.64i.n9 1.64j.n9 1.64k.n9 1.64l.n9 1.64m.n9 1.64n.n9 1.64o.n9 1.64p.n9 1.64q.n9",
  "1.64r.n9 1.64s.n9 1.64t.n9 1.64u.n9 1.64v.n9 1.65c.n9 1.65d.n9 1.65e.n9 1.65f.n9 1.65g.n9",
  "1.65h.n9 1.65i.n9 1.65j.n9 1.65k.n9 1.65l.n9 1.65m.n9 1.65n.n9 1.65o.n9 1.65p.n9 1.65q.n9",
  "1.65r.n9 1.674.n9 1.675.n9 1.676.n9 1.677.n9 1.678.n9 1.679.n9 1.67a.n9 1.67b.n9 1.67c.n9",
  "1.67d.n9 1.67e.n9 1.67f.n9 1.67g.n9 1.67h.n9 1.67i.n9 1.67j.n9 1.q9.li 1.q9.lg 1.67k.n9 1.q9.n9",
  "1.q4.n9 2.q9.n6 1.69i.n9 1.pd.li 1.pd.lg 1.pd.lc 2.pd.n9 5.4o.n6 1.67o.n9 1.qf.n9 1.q6.n9",
  "2.qf.n6 1.69y.n9 1.ph.lc 2.pj.lc 2.pj.n9 1.69r.lc 1.69r.ld 1.69r.n6 1.qh.li 1.qh.lg 1.qy.lc",
  "4.qh.n6 1.qy.n6 1.pl.li 1.pl.lg 1.pl.lc 3.6bi.lc 1.6bi.ld 1.6bi.n6 1.qt.li 1.qt.lg 1.qz.lc",
  "2.qp.lv 1.qp.lw 1.qt.n6 1.qz.n6 1.px.li 1.px.lg 1.px.lc 2.pt.lw 1.4o.lc 5.67w.n9 1.qx.n9 1.r2.n9",
  "2.qx.n6 1.6ba.n9 1.pr.lc 2.q1.lc 2.q1.n9 bi.6mo.mw 1.6mq.mw j.6ms.mw v.6og.mw 1.6ok.mw 1.6oi.mw",
  "1h.6pv.mw 5.6q0.mw 3.6q3.mw o.6qr.mw 2.6qt.mw r.6rg.mw 3.6rn.mw 3.6rp.mw 2.6rs.mw n.1p.mw",
  "2.6sh.mw b.6rx.mw 1.1o.mw 1.1q.mw 1.6sk.mw 1.6sl.mw 3.6sy.mw 1.6sz.mw 3.6t2.mw 1.6t3.mw 7.6t6.mw",
  "1.6t7.mw 3.6te.mw 1.6tf.mw 3.6ti.mw 1.6tj.mw z.6ua.mw 1.6ug.mw 1.6uh.mw 1.6uj.mw 1d.6t8.mw",
  "1.6t9.mw 1.6tt.mw 1.6tu.mw 7.6uq.mw 1.6ur.mw 1.6us.mw 1.6ut.mw 2n3.9jf.9ll 2.9jh.9ll 2.9jj.9ll",
  "2.9jl.9ll 2.9jn.9ll 2.9jp.9ll 2.9jr.9ll 2.9jt.9ll 2.9jv.9ll 2.9jx.9ll 2.9jz.9ll 2.9k1.9ll",
  "3.9k4.9ll 2.9k6.9ll 2.9k8.9ll 7.9kf.9ll 1.9kf.9lm 2.9ki.9ll 1.9ki.9lm 2.9kl.9ll 1.9kl.9lm",
  "2.9ko.9ll 1.9ko.9lm 2.9kr.9ll 1.9kr.9lm n.9ja.9ll a.9lp.9ll e.9m3.9ll 2.9m5.9ll 2.9m7.9ll",
  "2.9m9.9ll 2.9mb.9ll 2.9md.9ll 2.9mf.9ll 2.9mh.9ll 2.9mj.9ll 2.9ml.9ll 2.9mn.9ll 2.9mp.9ll",
  "3.9ms.9ll 2.9mu.9ll 2.9mw.9ll 7.9n3.9ll 1.9n3.9lm 2.9n6.9ll 1.9n6.9lm 2.9n9.9ll 1.9n9.9lm",
  "2.9nc.9ll 1.9nc.9lm 2.9nf.9ll 1.9nf.9lm n.9ly.9ll 3.9nz.9ll 1.9o0.9ll 1.9o1.9ll 1.9o2.9ll",
  "4.9od.9ll 1864.1huh.1hve 2.1huj.1hve f.1hut.1hve 3n.1hyp.1hyf 1.1hyq.1hyf f0.1idj.1ida",
  "1.1idj.1idz a7.1int.1inu 1.1int.1ink 2.1int.1inx 70.1iuw.1iun 1.1iux.1iun ot.1jjp.1jjk"]

/-- How each code point shows: `P` by itself, `G` only on the one before it, `N` not at all. -/
def display : List String := [
  "wN 2nP yN cP N giP 34G 8P 2N 6P 4N 7P N P N kP N 68P 7G 4mP N 12P 2N 1eP 2N 3P N 19G P G P 2G P",
  "2G P G 8N rP 4N 6P hN aP bG P N 1aP lG gP G 2tP 7G N P 6G 2P 2G P 4G wP 2N P G uP rG 2N 2hP bG P",
  "eN 17P 9G 7P 2N G oP 4G P 9G P 3G P 5G 2N fP N pP 3G 2N P N bP 5N wP 7N P 8G 16P oG N wG 1jP G P",
  "G 4P 8G 4P G 3P 7G aP 2G tP G 2P N 8P 2N 2P 2N mP N 7P N P 3N 4P 2N G P G 2P 4G 2N 2P 2N 2P G P",
  "8N G 4N 2P N 3P 2G 2N oP G 2N 2G P N 6P 4N 2P 2N mP N 7P N 2P N 2P N 2P 2N G N 3P 2G 4N 2G 2N 3G",
  "3N G 7N 4P N P 7N aP 2G 3P G P aN 2G P N 9P N 3P N mP N 7P N 2P N 5P 2N G 4P 5G N 2G P N 2P G 2N",
  "P fN 2P 2G 2N cP 7N P 6G N G 2P N 8P 2N 2P 2N mP N 7P N 2P N 5P 2N G P 2G P 4G 2N 2P 2N 2P G 7N",
  "3G 4N 2P N 3P 2G 2N iP aN G P N 6P 3N 3P N 4P 3N 2P N P N 2P 3N 2P 3N 3P 3N cP 4N G P G 2P 3N 3P",
  "N 3P G 2N P 6N G eN lP 5N G 3P G 8P N 3P N nP N gP 2N G P 3G 4P N 3G N 4G 7N 2G N 3P N 2P 2N 2P",
  "2G 2N aP 7N aP G bP N 3P N nP N aP N 5P 2N G 2P 2G P G 2P N 3G N 4G 7N 2G 5N 3P N 2P 2G 2N aP N",
  "3P cN 2G bP N 3P N 15P 2G P G 2P 4G N 3P N 3P G 2P 4N 3P G aP 2G 2N qP N G 2P N iP 3N oP N 9P N",
  "P 2N 7P 3N G 4N G 2P 3G N G N 7P G 6N aP 2N 3P cN 1cP G 2P 7G 4N 8P 8G dP 11N 2P N P N 5P N oP N",
  "P N aP G 2P 9G P 2N 5P N P N 7G N aP 2N 4P wN oP 2G rP G P G P G eP N 10P 4N eG P 5G P 2G 5P bG",
  "N 10G N 8P G 6P N dP 11N 19P 4G P 6G P 2G 2P 2G pP 2G 4P 3G gP 4G dP G 2P 2G 6P G fP G 14P N P",
  "5N P 2N ahP N 4P 2N 7P N P N 4P 2N 15P N 4P 2N xP N 4P 2N 7P N P N 4P 2N fP N 1lP N 4P 2N 1vP 2N",
  "3G tP 3N qP 6N 2eP 2N 6P 2N hsP N sP 3N 2hP 7N iP 4G 9N jP 3G 2P 9N iP 2G cN dP N 3P N 2G cN 1gP",
  "2G P 7G 8P G 2P bG 9P G 2N aP 6N aP 6N bP 3G N G aP 6N 2hP 7N 5P 2G yP G P 5N 1yP aN vP N 3G 4P",
  "2G 3P 4N 2P G 6P 3G 4N P 3N 16P 2N 5P bN 18P 4N qP 6N bP 3N 1lP 2G 2P G 2N 1kP G P 7G N G P G 2P",
  "8G 6P aG 2N G aP 6N aP 6N eP 2N vG fP 2N cP kN 4G 1cP aG 4P 3G 8P N tP 9G cP 2G wP 4G 2P 6G 1kP",
  "G P 2G 3P G P 5G 8N 1cP 8G 2P 2G 3N fP 3N 1qP 5N 17P 2N bP 8N 3G P dG P 7G 4P G 6P G 3P 2G P 5N",
  "5cP 1sG 7qP 2N 6P 2N 12P 2N 6P 2N 8P N P N P N P N vP 2N 1hP N fP N eP 2N 6P N jP 2N 3P N 9P dN",
  "G 3N oP 8N 1bP hN 2P 2N rP N dP 3N yP eN xG fN 3wP 4N iiP mN bP lN 1ecP 2N ahP 3G 2P 5N 19P N P",
  "5N P 2N 1kP 7N 2P eN G nP 9N 7P N 7P N 7P N 7P N 7P N 7P N 7P N 7P N wG 2mP yN qP N 2hP cN 5yP",
  "qN cP 5N 15P 6G gP N 2eP 2N 2G 2tP 5N 17P N 2mP N 2eP aN 1bP N mlpP 3N 1jP 9N 9oP kN 1bP 4G P aG",
  "wP 2G 28P 2G 6P 8N 65P kN hP G 3P G 4P G pP 2G 5P G 3N aP 6N 1kP 8N 1wP 2G 8N cP 6N iG dP G 12P",
  "8G pP bG P G bN uP 3N 3G 1cP G 2P 4G 2P 2G 2P G dP N bP 4N 7P G pP N 15P 6G 2P 2G 2P 2G 9N 3P G",
  "8P G P 2N aP 2N wP G 1fP G P 3G 2P 2G 5P 2G P G P oN hP 2G 8P G aN 6P 2N 6P 2N 6P 9N 7P N 7P N",
  "1oP 4N 39P G 2P G 4P G 2N aP 6N 8mcP cN nP 4N 1dP 6isN a6P 2N 2yP 12N 7P cN 5P 5N P G oP N 5P N",
  "P N 2P N 2P N i2P wN gP gG aP 6N gG zP N jP N 4P 4N 5P N 3rP 4N 4dP 2G vP 3N 6P 2N 6P 2N 6P 2N",
  "3P 3N 7P N 7P dN 2P 2N cP N qP N jP N 2P N fP 2N eP yN 3fP 5N 3P 4N 19P 3N 2gP N dP 3N P 1bN 19P",
  "G 3mN tP 3N 1dP fN G rP 4N 10P 9N uP 5N 12P 5G 5N uP N 11P 4N eP 16N 4eP 2N aP 6N 10P 4N 10P 4N",
  "14P 8N 1gP bN cP N fP N 7P N 2P N bP N fP N 7P N 2P 3N 1gP cN 8nP 9N mP aN 8P oN 6P N 16P N 9P",
  "1xN 6P 2N P N 18P N 2P 3N P 2N nP N 20P 8N 9P 1cN jP N 2P 5N xP 3N rP 5N rP 12N 1kP 4N kP 2N 1bP",
  "3G N 2G 5N 4G 4P N 3P N tP 2N 3G 4N G 9P 7N 9P 7N 1sP wN 11P 2G 4N cP 9N 1iP 3N tP 2N rP 5N qP",
  "7N 4P cN 7P 28N 21P 1jN 1fP dN 1fP 7N 16P 4G 8N aP 6N 12P 3N tP 8N 2P 5sN vP N 16P N 2G P 2N 2P",
  "gN 6P 8N 9P xN 3P 3G 14P 8N mP bG 9P mN iP 4G 4P 12N sP kN nP 9N P G 1iP fG 7P 4N uP G 2P 2G P",
  "9N 3G 1dP 4G 2P 2G 2P N 4P G dN pP 7N aP 6N 3G 10P 5G P 8G N iP 8N zP G 3P 9N 2G 1gP 9G P G 8P",
  "4G 2P G gP N kP bN iP N sP 3G 2P 4G 6P G 2P G 1qN 7P N P N 4P N fP N bP 6N 1bP G 3P 8G 5N aP 6N",
  "2G 2P N 8P 2N 2P 2N mP N 7P N 2P N 5P N 2G P G P G 4P 2N 2P 2N 2P G 2N P 6N G 5N 7P 2N 7G 3N 5G",
  "bN aP N P 2N P N 12P N aP N P 2N P N 4P N aP N 2P 8N 2P tN 1kP 8G 2P 3G P G lP N P G 3P uN 1cP G",
  "2P 6G P G 2P G P 2G P 2G 4P 8N aP 4mN 1bP G 2P 4G 2N 4P 2G P 2G rP 2G yN 1fP 8G 2P G P 2G 4P bN",
  "aP 6N dP jN 17P G P G 2P 8G 2P 6N aP 6N kP sN rP 2N 3G 2P 4G P 5G 4N nP 55N 1bP 9G P 2G P 2sN",
  "2bP cN 8P 2N P 2N 8P N 2P N oP G 5P N 2P 2N 4G 4P G 3P 9N aP 1yN 8P 2N 16P 4G 2N 2G 4P G 4P rN P",
  "aG 14P 6G 2P 4G 8P G 8N P 6G 2P 3G 1aP dG P 2G 9P dN 21P 7N aP 2eN 8P 2gN yP eN aP 6N 9P N 12P",
  "7G N 6G P G 6P aN tP 3N wP 2N mG N P 7G P 2G P 2G 21N 7P N 2P N 12P 6G 3N G N 2G N 7G P G 8N aP",
  "6N 6P N 2P N 11P N 2G N 2P G P G P 7N aP 6N 18P 4N aP 6uN jP 2G 4P 7N 2G fP N 10P 5G 3N 2P G P G",
  "oP 2dN P fN 1eP dN pnP 2uN 33P N 5P bN 5gP 218N 2rP dN tsP gN G 6P fG aN 32zP 5N g7P 5a1N 1mP",
  "1c6N ftP 7N vP N aP 4N 29P N aP 6N uP 2N 5G P aN 1cP 7G fP aN aP N 7P N lP 5N jP c0N 1mP 5iN 2jP",
  "5N pP 2N pP 18N 23P 4N G 1kP 7N 4G dP 1sN 4P G bN 7P 9N 5p2P 15N wP 2pN 37P 6ppN 4P N 7P N 2P N",
  "83P fN P tN 3P 2N P eN 4P 8N b0P 1s4N 2zP 5N dP 3N 9P 7N aP 2N P 2G P 31cN 71P 3N c4P 6N nP fN",
  "hP fN 1aG 2N nG 9N 38P 1oN 6uP aN 13P 2N 1oP 5G 3P 6G 8N 8G 2P 7G uP 4G 1pP lN 1uP 3G P 3eN kP",
  "cN kP cN 2fP 9N pP 3rN 2dP N 1zP N 2P 2N P 2N 2P 2N 4P N cP N P N 7P N 1tP N 4P 2N 8P N 7P N sP",
  "N 4P N 5P N P 3N 7P N 9gP 2N 84P 2N fmP 1jG 4P 1eG 8P G eP G 7P fN 5G N fG uoN vP 6N 6P 5xN 7G N",
  "hG 2N 7G N 2G N 5G 5N 1qP xN G 34N 19P 3N 7G 7P 2N aP 4N 2P 8wN uP G hN 18P 4G aP 5N P cwN sP 4G",
  "aP 5yN 17P 4N P 5cN vP N mP 8N 2P 68N 7P N 4P N 2P N fP N 5hP 2N 9P 7G 15N 1wP 7G P 4N aP 4N 2P",
  "ltN 1wP 24N 1pP 5eN 4P N rP N 2P N P 2N P N aP N 4P N P N P 6N P 4N P N P N P N 3P N 2P N P 2N P",
  "N P N P N P N P N 2P N P 2N 4P N 7P N 4P N 4P N P N aP N hP 5N 3P N 5P N hP 1gN 2P 7iN 18P 4N",
  "2sP cN fP 2N fP N fP N 11P aN 4uP 1kN tP dN 18P 4N 9P 7N 2P eN 6P 4aN rdP 3N hP 3N dP 3N 62P 6N",
  "cP 4N P fN cP 4N 1kP 8N aP 6N 14P 8N uP 2N cP 4N 2P eN 9P 13N 9kP 8N eP 2N dP 3N bP 3N 1lP N P",
  "4N gP 2N cP 4N aP 7N 43P N 2vP slN wyoP wN 3dqP 2N 4geP 2N 5rlP fN haP 1wiN f2P 15uN 3t7P 5N",
  "6juP f5wmN 2oG 3kN 6oG 47bkN"]

end ModelGateway.Unicode.Data
