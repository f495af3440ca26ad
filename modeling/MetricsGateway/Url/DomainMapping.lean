import MetricsGateway.Text.CodeRuns

/-!
What becomes of each character of a domain: capitals become small letters, variants of a letter or a
digit become that letter or digit, some characters are dropped, and some are not allowed.
-/

namespace MetricsGateway.DomainMapping

/-- Runs of code points, by letter: `v` is kept, `x` is refused and `i` is dropped; `r` moves a run to
where its second number says and `t` one code point; in `y` each code point with an even place becomes
the next one; `s` becomes a text. -/
def table : List String := [
  "v41r1a,61v25x20t20v7s20,308v1t61v2i1v1s20,304v2r2,32s20,301t3bcv2s20,327t31t6fv1s31,2044,34",
  "s31,2044,32s33,2044,34v1r17,e0v1r7,f8v21y30s69,307v1s69,6as69,6ay4v1y6s6c,b7s6c,b7y8s2bc,6ey2e",
  "tffy6t73v1t253y4t254t188v1r2,256t18cv2t1ddt259t25bt192v1t260t263v1t269t268t199v3t26ft272v1t275",
  "y6t280t1a8v1t283v2t1adv1t288t1b0v1r2,28ay4t292t1b9v3t1bdv7s64,17es64,17es64,17es6c,6as6c,6a",
  "s6c,6as6e,6as6e,6as6e,6ay10v1y12v1s64,7as64,7as64,7at1f5v1t195t1bfy28t19ev1y12v6t2c65t23cv1t19a",
  "t2c66v2t242v1t180t289t28cyav60t68t266t6at72t279t27bt281t77t79v1fs20,306s20,307s20,30as20,328",
  "s20,303s20,30bv2t263t6ct73t78t295v5br2,300v1t313s308,301t3b9v9i1v20y4t2b9v1t377v1x2s20,3b9v3t3b",
  "t3f3x4s20,301s20,308,301t3actb7r3,3adx1t3ccx1r2,3cdv1r11,3b1x1r9,3c3v23t3d7t3b2t3b8t3c5t3cdt3cb",
  "t3c6t3c0v1y18t3bat3c1t3c3v1t3b8t3b5v1t3f8v1t3c3t3fbv2r3,37br10,450r20,430v30y22v8y36t4cfyev1y60",
  "x1r26,561x2v2es565,582v3x2v3x1v37x8v1bx4v6x11v16x1v58s627,674s648,674s6c7,674s64a,674v64x1v30x2",
  "v3bx2v65xev3bx2v31x2vfx1v1cx2v1x1vbx5v20x7v4bx1v75s915,93cs916,93cs917,93cs91c,93cs921,93c",
  "s922,93cs92b,93cs92f,93cv24x1v8x2v2x2v16x1v7x1v1x3v4x2v9x2v2x2v4x8v1x4s9a1,9bcs9a2,9bcx1",
  "s9af,9bcv4x2v19x2v3x1v6x4v2x2v16x1v7x1v1sa32,a3cx1v1sa38,a3cx1v2x2v1x1v5x4v2x2v3x3v1x7sa16,a3c",
  "sa17,a3csa1c,a3cv1x1sa2b,a3cx7v11xav3x1v9x1v3x1v16x1v7x1v2x1v5x2vax1v3x1v3x2v1xfv4x2vcx7v7x1v3",
  "x1v8x2v2x2v16x1v7x1v2x1v5x2v9x2v2x2v3x7v3x4sb21,b3csb22,b3cx1v5x2v12xav2x1v6x3v3x1v4x3v2x1v1x1",
  "v2x3v2x3v3x3vcx4v5x3v3x1v4x2v1x6v1xev15x5vdx1v3x1v17x1v10x2v9x1v3x1v4x7v2x1v3x1v2x2v4x2vax7v16",
  "x1v3x1v17x1vax1v5x2v9x1v3x1v4x7v2x5v3x1v4x2vax1v3xcvdx1v3x1v33x1v3x1v6x4v10x2v1ax1v3x1v12x3v18",
  "x1v9x1v1x2v7x3v1x4v6x1v1x1v8x6vax2v3xcv32se4d,e32v7x4v1dx25v2x1v1x1v5x1v18x1v1x1vcsecd,eb2vax2",
  "v5x1v1x1v7x1vax2seab,e99seab,ea1v2x20vctf0bv36sf42,fb7v4x1v4sf4c,fb7v4sf51,fb7v4sf56,fb7v4",
  "sf5b,fb7vcsf40,fb5v3x4v2sf71,f72v1sf71,f74sfb2,f80sfb2,f71,f80sfb3,f80sfb3,f71,f80v7sf71,f80v11",
  "sf92,fb7v4x1v4sf9c,fb7v4sfa1,fb7v4sfa6,fb7v4sfab,fb7vcsf90,fb5v3x1vfx1vdx25va0r26,2d00x1t2d27x5",
  "t2d2dx2v2ct10dcv62i2ve8x1v4x2v7x1v1x1v4x2v29x1v4x2v21x1v4x2v7x1v1x1v4x2vfx1v39x1v4x2v43x2v20x3",
  "v1ax6v56x2r6,13f0x2v280x1v1cx3v59x7v16x9v18x9v14xcvdx1v3x1v2xcv34i2v28x2vax6vax6vbi5vax6v59x7",
  "v2bx5v46xav1fx1vcx4vcx4v1x3v2ax2v5xbv2cx4v1ax6vbx3v3ex2v41x1v1dx2vbx6vax6vex2v2ex2vcx14v4dx1va6",
  "x8v3cx3vfx3v33t432t434t43er2,441t442t44at463ta64bt1c8av1x5r2b,10d0x2r3,10fdv8x8v2bx5v2ct61te6",
  "t62v1r2,64t1ddr8,67v1t6ft223t70t72r2,74t77t61r2,250t1d02t62r2,64t259r2,25bt67v1t6bt6dt14bt6f",
  "t254r2,1d16t70r2,74t1d1dt26ft76t1d25r3,3b2r2,3c6t69t72r2,75r2,3b2t3c1r2,3c6vdt43dv22t252t63t255",
  "tf0t25ct66t25ft261t265r3,268t1d7bt29dt26dt1d85t29ft271t270r4,272t278r2,282t1abr2,289t1d1cr2,28b",
  "t7ar3,290t3b8v40y96v4s61,2bet1e61v2tdfv1y60v8r8,1f00v6x2r6,1f10x2v8r8,1f20v8r8,1f30v6x2r6,1f40",
  "x2v8x1t1f51x1t1f53x1t1f55x1t1f57v8r8,1f60v1t3acv1t3adv1t3aev1t3afv1t3ccv1t3cdv1t3cex2s1f00,3b9",
  "s1f01,3b9s1f02,3b9s1f03,3b9s1f04,3b9s1f05,3b9s1f06,3b9s1f07,3b9s1f00,3b9s1f01,3b9s1f02,3b9",
  "s1f03,3b9s1f04,3b9s1f05,3b9s1f06,3b9s1f07,3b9s1f20,3b9s1f21,3b9s1f22,3b9s1f23,3b9s1f24,3b9",
  "s1f25,3b9s1f26,3b9s1f27,3b9s1f20,3b9s1f21,3b9s1f22,3b9s1f23,3b9s1f24,3b9s1f25,3b9s1f26,3b9",
  "s1f27,3b9s1f60,3b9s1f61,3b9s1f62,3b9s1f63,3b9s1f64,3b9s1f65,3b9s1f66,3b9s1f67,3b9s1f60,3b9",
  "s1f61,3b9s1f62,3b9s1f63,3b9s1f64,3b9s1f65,3b9s1f66,3b9s1f67,3b9v2s1f70,3b9s3b1,3b9s3ac,3b9x1v1",
  "s1fb6,3b9r2,1fb0t1f70t3acs3b1,3b9s20,313t3b9s20,313s20,342s20,308,342s1f74,3b9s3b7,3b9s3ae,3b9",
  "x1v1s1fc6,3b9t1f72t3adt1f74t3aes3b7,3b9s20,313,300s20,313,301s20,313,342v3t390x2v2r2,1fd0t1f76",
  "t3afx1s20,314,300s20,314,301s20,314,342v3t3b0v4r2,1fe0t1f7at3cdt1fe5s20,308,300s20,308,301t60x2",
  "s1f7c,3b9s3c9,3b9s3ce,3b9x1v1s1ff6,3b9t1f78t3cct1f7ct3ces3c9,3b9s20,301s20,314x1t20t20t20t20t20",
  "t20t20t20t20t20t20i1v2x2v1t2010v5s20,333vcx3v1x7t20v3s2032,2032s2032,2032,2032v1s2035,2035",
  "s2035,2035,2035v4s21,21v1s20,305v8s3f,3fs3f,21s21,3fvds2032,2032,2032,2032v7t20i5x5i6t30t69x2",
  "r6,34t2bt2212t3dr2,28t6era,30t2bt2212t3dr2,28x1t61t65t6ft78t259t68r4,6bt70r2,73x3v8s72,73v19xe",
  "v21xfs61,2f,63s61,2f,73t63sb0,63v1s63,2f,6fs63,2f,75t25bv1sb0,66r2,67t68t68t68t127t69t69t6ct6c",
  "v1t6es6e,6fv2r3,70t72t72v2s73,6ds74,65,6cs74,6dv1t7av1t3c9v1t7av1t6bte5r2,62v1t65r2,65t214et6d",
  "t6fr4,5d0t69v1s66,61,78t3c0t3b3t3b3t3c0t2211v4t64r2,64r2,69v6s31,2044,37s31,2044,39",
  "s31,2044,31,30s31,2044,33s32,2044,33s31,2044,35s32,2044,35s33,2044,35s34,2044,35s31,2044,36",
  "s35,2044,36s31,2044,38s33,2044,38s35,2044,38s37,2044,38s31,2044t69s69,69s69,69,69s69,76t76",
  "s76,69s76,69,69s76,69,69,69s69,78t78s78,69s78,69,69t6cr2,63t6dt69s69,69s69,69,69s69,76t76s76,69",
  "s76,69,69s76,69,69,69s69,78t78s78,69s78,69,69t6cr2,63t6dv3t2184v5s30,2044,33v2x4v9cs222b,222b",
  "s222b,222b,222bv1s222e,222es222e,222e,222evf8r2,3008vffx16vbx15r9,31s31,30s31,31s31,32s31,33",
  "s31,34s31,35s31,36s31,37s31,38s31,39s32,30s28,31,29s28,32,29s28,33,29s28,34,29s28,35,29",
  "s28,36,29s28,37,29s28,38,29s28,39,29s28,31,30,29s28,31,31,29s28,31,32,29s28,31,33,29",
  "s28,31,34,29s28,31,35,29s28,31,36,29s28,31,37,29s28,31,38,29s28,31,39,29s28,32,30,29x14",
  "s28,61,29s28,62,29s28,63,29s28,64,29s28,65,29s28,66,29s28,67,29s28,68,29s28,69,29s28,6a,29",
  "s28,6b,29s28,6c,29s28,6d,29s28,6e,29s28,6f,29s28,70,29s28,71,29s28,72,29s28,73,29s28,74,29",
  "s28,75,29s28,76,29s28,77,29s28,78,29s28,79,29s28,7a,29r1a,61r1a,61t30v521s222b,222b,222b,222b",
  "v67s3a,3a,3ds3d,3ds3d,3d,3dv65s2add,338v97x2v8ar30,2c30v30t2c61v1t26bt1d7dt27dv2y6t251t271t250",
  "t252v1t2c73v2t2c76v6t6at76r2,23fy64v7y4v3t2cf3v1x5v2dx1v1x5v1x2v38x7t2d61v1xev18x9v7x1v7x1v7x1",
  "v7x1v7x1v7x1v7x1v7x1v7ex22v1ax1v4t6bcdv53t9f9fxct4e00t4e28t4e36t4e3ft4e59t4e85t4e8ct4ea0t4eba",
  "t513ft5165t516bt5182t5196t51abt51e0t51f5t5200t529bt52f9t5315t531at5338t5341t535ct5369t5382t53b6",
  "t53c8t53e3t56d7t571ft58ebt5902t590at5915t5927t5973t5b50t5b80t5bf8t5c0ft5c22t5c38t5c6et5c71t5ddb",
  "t5de5t5df1t5dfet5e72t5e7at5e7ft5ef4t5efet5f0bt5f13t5f50t5f61t5f73t5fc3t6208t6236t624bt652ft6534",
  "t6587t6597t65a4t65b9t65e0t65e5t66f0t6708t6728t6b20t6b62t6b79t6bb3t6bcbt6bd4t6bdbt6c0ft6c14t6c34",
  "t706bt722at7236t723bt723ft7247t7259t725bt72act7384t7389t74dct74e6t7518t751ft7528t7530t758bt7592",
  "t7676t767dt76aet76bft76eet77dbt77e2t77f3t793at79b8t79bet7a74t7acbt7af9t7c73t7cf8t7f36t7f51t7f8a",
  "t7fbdt8001t800ct8012t8033t807ft8089t81e3t81eat81f3t81fct820ct821bt821ft826et8272t8278t864dt866b",
  "t8840t884ct8863t897et898bt89d2t8a00t8c37t8c46t8c55t8c78t8c9dt8d64t8d70t8db3t8eabt8ecat8f9bt8fb0",
  "t8fb5t9091t9149t91c6t91cct91d1t9577t9580t961ct96b6t96b9t96e8t9751t975et9762t9769t97cbt97edt97f3",
  "t9801t98a8t98dbt98dft9996t9999t99act9aa8t9ad8t9adft9b25t9b2ft9b32t9b3ct9b5at9ce5t9e75t9e7ft9ea5",
  "t9ebbt9ec3t9ecdt9ed1t9ef9t9efdt9f0et9f13t9f20t9f3bt9f4at9f52t9f8dt9f9ct9fa0x2at20v1t2ev33t3012",
  "v1t5341r2,5344v5x1v56x2v2s20,3099s20,309av2s3088,308av5fs30b3,30c8x5v2bx1r2,1100t11aat1102",
  "r2,11acr3,1103r6,11b0t111ar3,1106t1121ra,1109r15,1161i1r2,1114r2,11c7t11cct11cet11d3t11d7t11d9",
  "t111ct11ddt11dfr2,111dt1120r2,1122t1127t1129r5,112bt1132t1136t1140t1147t114cr2,11f1r3,1157",
  "r2,1184t1188r2,1191t1194t119et11a1x1v2t4e00t4e8ct4e09t56dbt4e0at4e2dt4e0bt7532t4e59t4e19t4e01",
  "t5929t5730t4ebav46xav10s28,1100,29s28,1102,29s28,1103,29s28,1105,29s28,1106,29s28,1107,29",
  "s28,1109,29s28,110b,29s28,110c,29s28,110e,29s28,110f,29s28,1110,29s28,1111,29s28,1112,29",
  "s28,ac00,29s28,b098,29s28,b2e4,29s28,b77c,29s28,b9c8,29s28,bc14,29s28,c0ac,29s28,c544,29",
  "s28,c790,29s28,cc28,29s28,ce74,29s28,d0c0,29s28,d30c,29s28,d558,29s28,c8fc,29s28,c624,c804,29",
  "s28,c624,d6c4,29x1s28,4e00,29s28,4e8c,29s28,4e09,29s28,56db,29s28,4e94,29s28,516d,29s28,4e03,29",
  "s28,516b,29s28,4e5d,29s28,5341,29s28,6708,29s28,706b,29s28,6c34,29s28,6728,29s28,91d1,29",
  "s28,571f,29s28,65e5,29s28,682a,29s28,6709,29s28,793e,29s28,540d,29s28,7279,29s28,8ca1,29",
  "s28,795d,29s28,52b4,29s28,4ee3,29s28,547c,29s28,5b66,29s28,76e3,29s28,4f01,29s28,8cc7,29",
  "s28,5354,29s28,796d,29s28,4f11,29s28,81ea,29s28,81f3,29t554ft5e7ct6587t7b8fv8s70,74,65s32,31",
  "s32,32s32,33s32,34s32,35s32,36s32,37s32,38s32,39s33,30s33,31s33,32s33,33s33,34s33,35t1100",
  "r2,1102r3,1105t1109r2,110br5,110etac00tb098tb2e4tb77ctb9c8tbc14tc0actc544tc790tcc28tce74td0c0",
  "td30ctd558scc38,ace0sc8fc,c758tc6b0v1t4e00t4e8ct4e09t56dbt4e94t516dt4e03t516bt4e5dt5341t6708",
  "t706bt6c34t6728t91d1t571ft65e5t682at6709t793et540dt7279t8ca1t795dt52b4t79d8t7537t5973t9069t512a",
  "t5370t6ce8t9805t4f11t5199t6b63t4e0at4e2dt4e0bt5de6t53f3t533bt5b97t5b66t76e3t4f01t8cc7t5354t591c",
  "s33,36s33,37s33,38s33,39s34,30s34,31s34,32s34,33s34,34s34,35s34,36s34,37s34,38s34,39s35,30",
  "s31,6708s32,6708s33,6708s34,6708s35,6708s36,6708s37,6708s38,6708s39,6708s31,30,6708s31,31,6708",
  "s31,32,6708s68,67s65,72,67s65,76s6c,74,64t30a2t30a4t30a6t30a8r2,30aat30adt30aft30b1t30b3t30b5",
  "t30b7t30b9t30bbt30bdt30bft30c1t30c4t30c6t30c8r6,30cat30d2t30d5t30d8t30dbr5,30det30e4t30e6",
  "r6,30e8r4,30efs4ee4,548cs30a2,30d1,30fc,30c8s30a2,30eb,30d5,30a1s30a2,30f3,30da,30a2",
  "s30a2,30fc,30ebs30a4,30cb,30f3,30b0s30a4,30f3,30c1s30a6,30a9,30f3s30a8,30b9,30af,30fc,30c9",
  "s30a8,30fc,30ab,30fcs30aa,30f3,30b9s30aa,30fc,30e0s30ab,30a4,30eas30ab,30e9,30c3,30c8",
  "s30ab,30ed,30ea,30fcs30ac,30ed,30f3s30ac,30f3,30des30ae,30acs30ae,30cb,30fcs30ad,30e5,30ea,30fc",
  "s30ae,30eb,30c0,30fcs30ad,30eds30ad,30ed,30b0,30e9,30e0s30ad,30ed,30e1,30fc,30c8,30eb",
  "s30ad,30ed,30ef,30c3,30c8s30b0,30e9,30e0s30b0,30e9,30e0,30c8,30f3s30af,30eb,30bc,30a4,30ed",
  "s30af,30ed,30fc,30cds30b1,30fc,30b9s30b3,30eb,30cas30b3,30fc,30dds30b5,30a4,30af,30eb",
  "s30b5,30f3,30c1,30fc,30e0s30b7,30ea,30f3,30b0s30bb,30f3,30c1s30bb,30f3,30c8s30c0,30fc,30b9",
  "s30c7,30b7s30c9,30ebs30c8,30f3s30ca,30ces30ce,30c3,30c8s30cf,30a4,30c4s30d1,30fc,30bb,30f3,30c8",
  "s30d1,30fc,30c4s30d0,30fc,30ec,30ebs30d4,30a2,30b9,30c8,30ebs30d4,30af,30ebs30d4,30b3s30d3,30eb",
  "s30d5,30a1,30e9,30c3,30c9s30d5,30a3,30fc,30c8s30d6,30c3,30b7,30a7,30ebs30d5,30e9,30f3",
  "s30d8,30af,30bf,30fc,30ebs30da,30bds30da,30cb,30d2s30d8,30eb,30c4s30da,30f3,30b9s30da,30fc,30b8",
  "s30d9,30fc,30bfs30dd,30a4,30f3,30c8s30dc,30eb,30c8s30db,30f3s30dd,30f3,30c9s30db,30fc,30eb",
  "s30db,30fc,30f3s30de,30a4,30af,30eds30de,30a4,30ebs30de,30c3,30cfs30de,30eb,30af",
  "s30de,30f3,30b7,30e7,30f3s30df,30af,30ed,30f3s30df,30eas30df,30ea,30d0,30fc,30ebs30e1,30ac",
  "s30e1,30ac,30c8,30f3s30e1,30fc,30c8,30ebs30e4,30fc,30c9s30e4,30fc,30ebs30e6,30a2,30f3",
  "s30ea,30c3,30c8,30ebs30ea,30e9s30eb,30d4,30fcs30eb,30fc,30d6,30ebs30ec,30e0",
  "s30ec,30f3,30c8,30b2,30f3s30ef,30c3,30c8s30,70b9s31,70b9s32,70b9s33,70b9s34,70b9s35,70b9",
  "s36,70b9s37,70b9s38,70b9s39,70b9s31,30,70b9s31,31,70b9s31,32,70b9s31,33,70b9s31,34,70b9",
  "s31,35,70b9s31,36,70b9s31,37,70b9s31,38,70b9s31,39,70b9s32,30,70b9s32,31,70b9s32,32,70b9",
  "s32,33,70b9s32,34,70b9s68,70,61s64,61s61,75s62,61,72s6f,76s70,63s64,6ds64,6d,32s64,6d,33s69,75",
  "s5e73,6210s662d,548cs5927,6b63s660e,6cbbs682a,5f0f,4f1a,793es70,61s6e,61s3bc,61s6d,61s6b,61",
  "s6b,62s6d,62s67,62s63,61,6cs6b,63,61,6cs70,66s6e,66s3bc,66s3bc,67s6d,67s6b,67s68,7as6b,68,7a",
  "s6d,68,7as67,68,7as74,68,7as3bc,6cs6d,6cs64,6cs6b,6cs66,6ds6e,6ds3bc,6ds6d,6ds63,6ds6b,6d",
  "s6d,6d,32s63,6d,32s6d,32s6b,6d,32s6d,6d,33s63,6d,33s6d,33s6b,6d,33s6d,2215,73s6d,2215,73,32",
  "s70,61s6b,70,61s6d,70,61s67,70,61s72,61,64s72,61,64,2215,73s72,61,64,2215,73,32s70,73s6e,73",
  "s3bc,73s6d,73s70,76s6e,76s3bc,76s6d,76s6b,76s6d,76s70,77s6e,77s3bc,77s6d,77s6b,77s6d,77s6b,3c9",
  "s6d,3c9x1s62,71s63,63s63,64s63,2215,6b,67x1s64,62s67,79s68,61s68,70s69,6es6b,6bs6b,6ds6b,74",
  "s6c,6ds6c,6es6c,6f,67s6c,78s6d,62s6d,69,6cs6d,6f,6cs70,68x1s70,70,6ds70,72s73,72s73,76s77,62",
  "s76,2215,6ds61,2215,6ds31,65e5s32,65e5s33,65e5s34,65e5s35,65e5s36,65e5s37,65e5s38,65e5s39,65e5",
  "s31,30,65e5s31,31,65e5s31,32,65e5s31,33,65e5s31,34,65e5s31,35,65e5s31,36,65e5s31,37,65e5",
  "s31,38,65e5s31,39,65e5s32,30,65e5s32,31,65e5s32,32,65e5s32,33,65e5s32,34,65e5s32,35,65e5",
  "s32,36,65e5s32,37,65e5s32,38,65e5s32,39,65e5s33,30,65e5s33,31,65e5s67,61,6cv708dx3v37x9v15cx14",
  "y2ev12y1ct44at44cv5ax8v22yev2y3eta76fv8y4t1d79yav3ta78cv1t265v2y4v2y14t266t25ct261t26ct26av1",
  "t29et287t29dtab53y10ta794t282t1d8ey4t264y10t19bx14t73t63t66t71ta7f6v2t127t153v33x3vax6v38x8v46",
  "x8vcx6v74xbv1ex3v4ex1vbx4v21x1v37x9vex2vax2v67x18v1cxav6x2v6x2v6x9v7x1v7x1v2cta727tab37t26b",
  "tab52v9t28dv2x4r50,13a0v2ex2vax6v2ba4xcv17x4v31x2104t8c48t66f4t8ecat8cc8t6ed1t4e32t53e5t9f9c",
  "t9f9ct5951t91d1t5587t5948t61f6t7669t7f85t863ft87bat88f8t908ft6a02t6d1bt70d9t73det843dt916at99f1",
  "t4e82t5375t6b04t721bt862dt9e1et5d50t6febt85cdt8964t62c9t81d8t881ft5ecat6717t6d6at72fct90cet4f86",
  "t51b7t52det64c4t6ad3t7210t76e7t8001t8606t865ct8deft9732t9b6ft9dfat788ct797ft7da0t83c9t9304t9e7f",
  "t8ad6t58dft5f04t7c60t807et7262t78cat8cc2t96f7t58d8t5c62t6a13t6ddat6f0ft7d2ft7e37t964bt52d2t808b",
  "t51dct51cct7a1ct7dbet83f1t9675t8b80t62cft6a02t8afet4e39t5be7t6012t7387t7570t5317t78fbt4fbft5fa9",
  "t4e0dt6ccct6578t7d22t53c3t585et7701t8449t8aaat6bbat8fb0t6c88t62fet82e5t63a0t7565t4eaet5169t51c9",
  "t6881t7ce7t826ft8ad2t91cft52f5t5442t5973t5eect65c5t6ffet792at95adt9a6at9e97t9ecet529bt66c6t6b77",
  "t8f62t5e74t6190t6200t649at6f23t7149t7489t79cat7df4t806ft8f26t84eet9023t934at5217t52a3t54bdt70c8",
  "t88c2t8aaat5ec9t5ff5t637bt6baet7c3et7375t4ee4t56f9t5be7t5dbat601ct73b2t7469t7f9at8046t9234t96f6",
  "t9748t9818t4f8bt79aet91b4t96b8t60e1t4e86t50dat5beet5c3ft6599t6a02t71cet7642t84fct907ct9f8dt6688",
  "t962et5289t677bt67f3t6d41t6e9ct7409t7559t786bt7d10t985et516dt622et9678t502bt5d19t6deat8f2at5f8b",
  "t6144t6817t7387t9686t5229t540ft5c65t6613t674et68a8t6ce5t7406t75e2t7f79t88cft88e1t91cct96e2t533f",
  "t6ebat541dt71d0t7498t85fat96a3t9c57t9e9ft6797t6dcbt81e8t7acbt7b20t7c92t72c0t7099t8b58t4ec0t8336",
  "t523at5207t5ea6t62d3t7cd6t5b85t6d1et66b4t8f3bt884ct964dt898bt5ed3t5140t55c0v2t585av1t6674v2",
  "t51det732at76cat793ct795et7965t798ft9756t7cbet7fbdv1t8612v1t8af8v2t9038t90fdv3t98eft98fct9928",
  "t9db4t90det96b7t4faet50e7t514dt52c9t52e4t5351t559dt5606t5668t5840t58a8t5c64t5c6et6094t6168t618e",
  "t61f2t654ft65e2t6691t6885t6d77t6e1at6f22t716et722bt7422t7891t793et7949t7948t7950t7956t795d",
  "r2,798dt7a40t7a81t7bc0t7df4t7e09t7e41t7f72t8005t81edt8279t8279t8457t8910t8996t8b01t8b39t8cd3",
  "t8d08t8fb6t9038t96e3t97fft983bt6075t242eet8218x2t4e26t51b5t5168t4f80t5145t5180t52c7t52fat559d",
  "t5555t5599t55e2t585at58b3t5944t5954t5a62t5b28t5ed2t5ed9t5f69t5fadt60d8t614et6108t618et6160t61f2",
  "t6234t63c4t641ct6452t6556t6674t6717t671bt6756t6b79t6bbat6d41t6edbt6ecbt6f22t701et716et77a7t7235",
  "t72aft732at7471t7506t753bt761dt761ft76cat76dbt76f4t774at7740t78cct7ab1t7bc0t7c7bt7d5bt7df4t7f3e",
  "t8005t8352t83eft8779t8941t8986t8996t8abft8af8t8acbt8b01t8afet8aedt8b39t8b8at8d08t8f38t9072t9199",
  "t9276t967ct96e3t9756t97dbt97fft980bt983bt9b12t9f9ct2284at22844t233d5t3b9dt4018t4039t25249t25cd0",
  "t27ed3t9f43t9f8ex26s66,66s66,69s66,6cs66,66,69s66,66,6cs73,74s73,74xcs574,576s574,565s574,56b",
  "s57e,576s574,56dx5s5d9,5b4v1s5f2,5b7t5e2t5d0r2,5d3r3,5dbt5e8t5eat2bs5e9,5c1s5e9,5c2s5e9,5bc,5c1",
  "s5e9,5bc,5c2s5d0,5b7s5d0,5b8s5d0,5bcs5d1,5bcs5d2,5bcs5d3,5bcs5d4,5bcs5d5,5bcs5d6,5bcx1s5d8,5bc",
  "s5d9,5bcs5da,5bcs5db,5bcs5dc,5bcx1s5de,5bcx1s5e0,5bcs5e1,5bcx1s5e3,5bcs5e4,5bcx1s5e6,5bc",
  "s5e7,5bcs5e8,5bcs5e9,5bcs5ea,5bcs5d5,5b9s5d1,5bfs5db,5bfs5e4,5bfs5d0,5dct671t671t67bt67bt67b",
  "t67bt67et67et67et67et680t680t680t680t67at67at67at67at67ft67ft67ft67ft679t679t679t679t6a4t6a4",
  "t6a4t6a4t6a6t6a6t6a6t6a6t684t684t684t684t683t683t683t683t686t686t686r2,686t687t687t687t68dt68d",
  "t68ct68ct68et68et688t688t698t698t691t691t6a9t6a9t6a9t6a9t6aft6aft6aft6aft6b3t6b3t6b3t6b3t6b1",
  "t6b1t6b1t6b1t6bar2,6bat6bbt6bbt6bbt6c0r2,6c0t6c1t6c1t6c1t6bet6bet6bet6bet6d2r2,6d2t6d3v21t6ad",
  "t6adt6adt6adt6c7t6c7t6c6t6c6t6c8t6c8s6c7,674t6cbt6cbt6c5t6c5t6c9t6c9t6d0t6d0t6d0t6d0t649t649",
  "s626,627s626,627s626,6d5s626,6d5s626,648s626,648s626,6c7s626,6c7s626,6c6s626,6c6s626,6c8",
  "s626,6c8s626,6d0s626,6d0s626,6d0s626,649s626,649s626,649t6cct6cct6cct6ccs626,62cs626,62d",
  "s626,645s626,649s626,64as628,62cs628,62ds628,62es628,645s628,649s628,64as62a,62cs62a,62d",
  "s62a,62es62a,645s62a,649s62a,64as62b,62cs62b,645s62b,649s62b,64as62c,62ds62c,645s62d,62c",
  "s62d,645s62e,62cs62e,62ds62e,645s633,62cs633,62ds633,62es633,645s635,62ds635,645s636,62c",
  "s636,62ds636,62es636,645s637,62ds637,645s638,645s639,62cs639,645s63a,62cs63a,645s641,62c",
  "s641,62ds641,62es641,645s641,649s641,64as642,62ds642,645s642,649s642,64as643,627s643,62c",
  "s643,62ds643,62es643,644s643,645s643,649s643,64as644,62cs644,62ds644,62es644,645s644,649",
  "s644,64as645,62cs645,62ds645,62es645,645s645,649s645,64as646,62cs646,62ds646,62es646,645",
  "s646,649s646,64as647,62cs647,645s647,649s647,64as64a,62cs64a,62ds64a,62es64a,645s64a,649",
  "s64a,64as630,670s631,670s649,670s20,64c,651s20,64d,651s20,64e,651s20,64f,651s20,650,651",
  "s20,651,670s626,631s626,632s626,645s626,646s626,649s626,64as628,631s628,632s628,645s628,646",
  "s628,649s628,64as62a,631s62a,632s62a,645s62a,646s62a,649s62a,64as62b,631s62b,632s62b,645",
  "s62b,646s62b,649s62b,64as641,649s641,64as642,649s642,64as643,627s643,644s643,645s643,649",
  "s643,64as644,645s644,649s644,64as645,627s645,645s646,631s646,632s646,645s646,646s646,649",
  "s646,64as649,670s64a,631s64a,632s64a,645s64a,646s64a,649s64a,64as626,62cs626,62ds626,62e",
  "s626,645s626,647s628,62cs628,62ds628,62es628,645s628,647s62a,62cs62a,62ds62a,62es62a,645",
  "s62a,647s62b,645s62c,62ds62c,645s62d,62cs62d,645s62e,62cs62e,645s633,62cs633,62ds633,62e",
  "s633,645s635,62ds635,62es635,645s636,62cs636,62ds636,62es636,645s637,62ds638,645s639,62c",
  "s639,645s63a,62cs63a,645s641,62cs641,62ds641,62es641,645s642,62ds642,645s643,62cs643,62d",
  "s643,62es643,644s643,645s644,62cs644,62ds644,62es644,645s644,647s645,62cs645,62ds645,62e",
  "s645,645s646,62cs646,62ds646,62es646,645s646,647s647,62cs647,645s647,670s64a,62cs64a,62d",
  "s64a,62es64a,645s64a,647s626,645s626,647s628,645s628,647s62a,645s62a,647s62b,645s62b,647",
  "s633,645s633,647s634,645s634,647s643,644s643,645s644,645s646,645s646,647s64a,645s64a,647",
  "s640,64e,651s640,64f,651s640,650,651s637,649s637,64as639,649s639,64as63a,649s63a,64as633,649",
  "s633,64as634,649s634,64as62d,649s62d,64as62c,649s62c,64as62e,649s62e,64as635,649s635,64a",
  "s636,649s636,64as634,62cs634,62ds634,62es634,645s634,631s633,631s635,631s636,631s637,649",
  "s637,64as639,649s639,64as63a,649s63a,64as633,649s633,64as634,649s634,64as62d,649s62d,64a",
  "s62c,649s62c,64as62e,649s62e,64as635,649s635,64as636,649s636,64as634,62cs634,62ds634,62e",
  "s634,645s634,631s633,631s635,631s636,631s634,62cs634,62ds634,62es634,645s633,647s634,647",
  "s637,645s633,62cs633,62ds633,62es634,62cs634,62ds634,62es637,645s638,645s627,64bs627,64bv12",
  "s62a,62c,645s62a,62d,62cs62a,62d,62cs62a,62d,645s62a,62e,645s62a,645,62cs62a,645,62d",
  "s62a,645,62es62c,645,62ds62c,645,62ds62d,645,64as62d,645,649s633,62d,62cs633,62c,62d",
  "s633,62c,649s633,645,62ds633,645,62ds633,645,62cs633,645,645s633,645,645s635,62d,62d",
  "s635,62d,62ds635,645,645s634,62d,645s634,62d,645s634,62c,64as634,645,62es634,645,62e",
  "s634,645,645s634,645,645s636,62d,649s636,62e,645s636,62e,645s637,645,62ds637,645,62d",
  "s637,645,645s637,645,64as639,62c,645s639,645,645s639,645,645s639,645,649s63a,645,645",
  "s63a,645,64as63a,645,649s641,62e,645s641,62e,645s642,645,62ds642,645,645s644,62d,645",
  "s644,62d,64as644,62d,649s644,62c,62cs644,62c,62cs644,62e,645s644,62e,645s644,645,62d",
  "s644,645,62ds645,62d,62cs645,62d,645s645,62d,64as645,62c,62ds645,62c,645s645,62e,62c",
  "s645,62e,645v2s645,62c,62es647,645,62cs647,645,645s646,62d,645s646,62d,649s646,62c,645",
  "s646,62c,645s646,62c,649s646,645,64as646,645,649s64a,645,645s64a,645,645s628,62e,64a",
  "s62a,62c,64as62a,62c,649s62a,62e,64as62a,62e,649s62a,645,64as62a,645,649s62c,645,64a",
  "s62c,62d,649s62c,645,649s633,62e,649s635,62d,64as634,62d,64as636,62d,64as644,62c,64a",
  "s644,645,64as64a,62d,64as64a,62c,64as64a,645,64as645,645,64as642,645,64as646,62d,64a",
  "s642,645,62ds644,62d,645s639,645,64as643,645,64as646,62c,62ds645,62e,64as644,62c,645",
  "s643,645,645s644,62c,645s646,62c,62ds62c,62d,64as62d,62c,64as645,62c,64as641,645,64a",
  "s628,62d,64as643,645,645s639,62c,645s635,645,645s633,62e,64as646,62c,64av8x20s635,644,6d2",
  "s642,644,6d2s627,644,644,647s627,643,628,631s645,62d,645,62fs635,644,639,645s631,633,648,644",
  "s639,644,64a,647s648,633,644,645s635,644,649",
  "s635,644,649,20,627,644,644,647,20,639,644,64a,647,20,648,633,644,645",
  "s62c,644,20,62c,644,627,644,647s631,6cc,627,644v3i10t2ct3001x1r2,3at21t3fr2,3016x7v10x1t2014",
  "t2013t5ft5fr2,28t7bt7dr2,3014r2,3010r2,300ar2,3008r4,300cv2t5bt5ds20,305s20,305s20,305s20,305",
  "t5ft5ft5ft2ct3001x2t3bt3at3ft21t2014r2,28t7bt7dr2,3014t23t26r2,2at2dt3ct3et3dx1t5cr2,24t40x4",
  "s20,64bs640,64bs20,64cv1s20,64dx1s20,64es640,64es20,64fs640,64fs20,650s640,650s20,651s640,651",
  "s20,652s640,652r2,621r2,622r2,623r2,624r2,625t626t626r2,626r2,627t628t628r2,628r2,629t62at62a",
  "r2,62at62bt62br2,62bt62ct62cr2,62ct62dt62dr2,62dt62et62er2,62er2,62fr2,630r2,631r2,632t633t633",
  "r2,633t634t634r2,634t635t635r2,635t636t636r2,636t637t637r2,637t638t638r2,638t639t639r2,639t63a",
  "t63at63at641t641t641r2,641t642t642r2,642t643t643r2,643t644t644r2,644t645t645r2,645t646t646",
  "r2,646t647t647r2,647r2,648r2,649t64at64at64as644,622s644,622s644,623s644,623s644,625s644,625",
  "s644,627s644,627x2i1x1r20,21r1a,61r24,5br2,2985t2er2,300ct3001t30fbt30f2t30a1t30a3t30a5t30a7",
  "t30a9t30e3t30e5t30e7t30c3t30fct30a2t30a4t30a6t30a8r2,30aat30adt30aft30b1t30b3t30b5t30b7t30b9",
  "t30bbt30bdt30bft30c1t30c4t30c6t30c8r6,30cat30d2t30d5t30d8t30dbr5,30det30e4t30e6r6,30e8t30ef",
  "t30f3r2,3099i1r2,1100t11aat1102r2,11acr3,1103r6,11b0t111ar3,1106t1121ra,1109x3r6,1161x2r6,1167",
  "x2r6,116dx2r3,1173x3r2,a2tacs20,304ta6ta5t20a9x1t2502r4,2190t25a0t25cbx11vcx1v1ax1v13x1v2x1vfx2",
  "vex22v7bx5v3x4v2dx3v58x1vdx3v1x2fv2ex82v1dx3v31xfv1cx4v24x9v1ex5v2bx5v1ex1v25x4vex2ar28,10428",
  "v76x2vax6r24,104d8x4v24x4v28x8v34xbv1rb,10597x1rf,105a3x1r7,105b3x1r2,105bbx1vbx1vfx1v7x1v2x3",
  "v34xcv137x9v16xav8x18v1r2,2d0te6t299t253x1t2a3tab66t2a5t2a4r2,256t1d91t258t25et2a9t264t262t260",
  "t29bt127t29ct267t284r2,2aat26ct1df04ta78et26et1df05t28et1df06tf8r2,276t71t27at1df08r2,27dt280",
  "t2a8t2a6tab67t2a7t288t2c71x1t28fr2,2a1t298r3,1c0t1df0at1df1ex45v6x2v1x1v2cx1v2x3v1x2v17x1v48x8",
  "v9x30v13x1v2x5v21x3v1bx5v1bx26v38x4v14x2v32x1v2x5v8x1v3x1v1dx2v3x4vax7v9x7v40x20v27x4vcx9v36x3",
  "v1dx2v1bx5v1ax7v4xcv7x50v49x37r33,10cc0xdv33x7v2ex8vax6v10r16,10d70x3v1dx8v2xd0v1fx1v2ax1v3x2v2",
  "x10v6x8v9x21v2ex8v2ax16v1ax26v1cx14v17x9v4ex4v24x9v3ex1v5xdv19x7vax6v35x1v12x8v27x9v60x1v14xb",
  "v12x1v2fx3ev7x1v1x1v4x1vfx1vbx6v3bx5vax6v4x1v8x2v2x2v16x1v7x1v2x1v5x1vax2v2x2v3x2v1x6v1x5v7x2v7",
  "x3v5xbvax1v1x2v1x1v26x1vax1v1x2v1x1v4x1vax1v2x8v2x1dv5cx1v5x1ev48x8vaxa6v36x2v26x22v45xbvax6vd",
  "x13v3ax6vax6v14x1cv1bx2vfx4v17xb9v3cx64r20,118c0v33xcv8x2v1x2v8x1v2x1v1ex1v2x2vcx9vax46v8x2v2e",
  "x2vbx1bv48x8v53xdv49x7vax56v8x58v22xevax6v9x1v2dx1vexav1dx3v20x2v16x1vex49v7x1v2x1v2cx3v1x1v2x1",
  "v9x8vax6v6x1v2x1v25x1v2x1v6x7vax6v2cx4vaxf6v19x7v11x1v29x3v1dx55v1xfv32xdv39bx66v6fx1v5xbvc4",
  "xa4cv63xdv430x10v16xavf9bx5v247x1ab9v3ax6c6v239x7v1fx1vax4v51x1vax6v1ex2v6xav46xavax1v7x1v15x5",
  "v13x1b0v3axc6r20,16e60v3bx5r19,16ebbx2v19x2cv4bx4v39x7v11x40v5xbv7x9v1cd6x29v20x61v73x21fdv4x1",
  "v7x1v2x1v123xfv1x1dv3x2v1xev4x8v18cx904v6bx5vdx3v9x7vax2v4i4xf5cvd6r1a,61ra,30v3x3v1b4x6v17xf",
  "v11xfv2ex2v17x9v74x3cvf6xav27x2v35s1d157,1d165s1d158,1d165s1d158,1d165,1d16es1d158,1d165,1d16f",
  "s1d158,1d165,1d170s1d158,1d165,1d171s1d158,1d165,1d172vei8v40s1d1b9,1d165s1d1ba,1d165",
  "s1d1b9,1d165,1d16es1d1ba,1d165,1d16es1d1b9,1d165,1d16fs1d1ba,1d165,1d16fv2ax15v46x7av14xcv14xc",
  "v57x9v19x87r1a,61r1a,61r1a,61r7,61x1r12,69r1a,61r1a,61t61x1r2,63x2t67x2r2,6ax2r4,6ex1r8,73r4,61",
  "x1t66x1r7,68x1rb,70r1a,61r1a,61r2,61x1r4,64x2r8,6ax1r7,73x1r1a,61r2,61x1r4,64x1r5,69x1t6fx3",
  "r7,73x1r1a,61r1a,61r1a,61r1a,61r1a,61r1a,61r1a,61r1a,61r1a,61r1a,61r1a,61r1a,61r1a,61t131t237x2",
  "r11,3b1t3b8r7,3c3t2207r11,3b1t3c3r7,3c3t2202t3b5t3b8t3bat3c6t3c1t3c0r11,3b1t3b8r7,3c3t2207",
  "r11,3b1t3c3r7,3c3t2202t3b5t3b8t3bat3c6t3c1t3c0r11,3b1t3b8r7,3c3t2207r11,3b1t3c3r7,3c3t2202t3b5",
  "t3b8t3bat3c6t3c1t3c0r11,3b1t3b8r7,3c3t2207r11,3b1t3c3r7,3c3t2202t3b5t3b8t3bat3c6t3c1t3c0r11,3b1",
  "t3b8r7,3c3t2207r11,3b1t3c3r7,3c3t2202t3b5t3b8t3bat3c6t3c1t3c0t3ddt3ddx2ra,30ra,30ra,30ra,30",
  "ra,30v28cxfv5x1vfx450v1fx6v6xd5v7x1v11x2v7x1v2x1v5x5r9,430r3,43arb,43et44br2,44dta689t4d9t456",
  "t458t4e9t4aft4cfr9,430r2,43ar2,43et441r6,443r2,44at491t456t455t45ft4abta651t4b1x21v1x70v2dx3ve",
  "x2vax4v2x140v1fx11v3ax5v1x1d0v2axd6v2bx4v1xc0v1fx1v16x8v2xe0v7x1v4x1v2x1vfx1vc5x2v10x29",
  "r22,1e922v2ax4vax4v2x311v44x4cv3dxc2r2,627t62ct62fx1t648t632t62dt637t64ar4,643t633t639t641t635",
  "t642t631t634r2,62at62et630t636t638t63at66et6bat6a1t66fx1t628t62cx1t647x2t62dx1t64ar4,643t633",
  "t639t641t635t642x1t634r2,62at62ex1t636x1t63ax6t62cx4t62dx1t64ax1t644x1t646t633t639x1t635t642x1",
  "t634x2t62ex1t636x1t63ax1t6bax1t66fx1t628t62cx1t647x2t62dt637t64at643x1r2,645t633t639t641t635",
  "t642x1t634r2,62at62ex1t636t638t63at66ex1t6a1x1r2,627t62ct62fr2,647t632t62dt637t64ax1r3,644t633",
  "t639t641t635t642t631t634r2,62at62et630t636t638t63ax5t628t62ct62fx1t648t632t62dt637t64ax1r3,644",
  "t633t639t641t635t642t631t634r2,62at62et630t636t638t63ax34v2x10ev2cx4v64xcvfx2vfx1vfx1v25xb",
  "s30,2cs31,2cs32,2cs33,2cs34,2cs35,2cs36,2cs37,2cs38,2cs39,2cv5s28,61,29s28,62,29s28,63,29",
  "s28,64,29s28,65,29s28,66,29s28,67,29s28,68,29s28,69,29s28,6a,29s28,6b,29s28,6c,29s28,6d,29",
  "s28,6e,29s28,6f,29s28,70,29s28,71,29s28,72,29s28,73,29s28,74,29s28,75,29s28,76,29s28,77,29",
  "s28,78,29s28,79,29s28,7a,29s3014,73,3015t63t72s63,64s77,7av1r1a,61s68,76s6d,76s73,64s73,73",
  "s70,70,76s77,63v1as6d,63s6d,64s6d,72v23s64,6av1dx38v1as307b,304bs30b3,30b3t30b5xdt624bt5b57",
  "t53cct30c7t4e8ct591at89e3t5929t4ea4t6620t7121t6599t524dt5f8ct518dt65b0t521dt7d42t751ft8ca9t58f0",
  "t5439t6f14t6295t6355t4e00t4e09t904at5de6t4e2dt53f3t6307t8d70t6253t7981t7a7at5408t6e80t6709t6708",
  "t7533t5272t55b6t914dx4s3014,672c,3015s3014,4e09,3015s3014,4e8c,3015s3014,5b89,3015",
  "s3014,70b9,3015s3014,6253,3015s3014,76d7,3015s3014,52dd,3015s3014,6557,3015x7t5f97t53efxev6x9a",
  "v3d9x3v11x3vdx3vdax6vcx4v1xfvcx4v38x8vax6v28x8v1ex2vcx4v2xev9x27v158x8vex2vdx3vbx3v39x1v1x4v10",
  "x2vcx4vax7v93x1v5cra,30v1x405va6e0x20v111ex2v168ex2v1d31xfv26ex9a2t4e3dt4e38t4e41t20122t4f60",
  "t4faet4fbbt5002t507at5099t50e7t50cft349et2063at514dt5154t5164t5177t2051ct34b9t5167t518dt2054b",
  "t5197t51a4t4ecct51act51b5t291dft51f5t5203t34dft523bt5246t5272t5277t3515t52c7t52c9t52e4t52fa",
  "r2,5305t5317t5349t5351t535at5373t537dt537ft537ft537ft20a2ct7070t53cat53dft20b63t53ebt53f1t5406",
  "t549et5438t5448t5468t54a2t54f6t5510t5553t5563t5584t5584t5599t55abt55b3t55c2t5716t5606t5717t5651",
  "t5674t5207t58eet57cet57f4t580dt578bt5832t5831t58act214e4t58f2t58f7t5906t591at5922t5962t216a8",
  "t216eat59ect5a1bt5a27t59d8t5a66t36eet36fct5b08t5b3et5b3et219c8t5bc3t5bd8t5be7t5bf3t21b18t5bff",
  "t5c06t5f53t5c22t3781t5c60t5c6et5cc0t5c8dt21de4t5d43t21de6t5d6et5d6bt5d7cr2,5de1t382ft5dfdt5e28",
  "t5e3dt5e69t3862t22183t387ct5eb0t5eb3t5eb6t5ecat2a392t5efet22331t22331t8201t5f22t5f22t38c7t232b8",
  "t261dat5f62t5f6bt38e3t5f9at5fcdt5fd7t5ff9t6081t393at391ct6094t226d4t60c7t6148t614ct614et614c",
  "t617at618et61b2t61a4t61aft61det61f2t61f6t6210t621bt625dt62b1t62d4t6350t22b0ct633dt62fct6368",
  "t6383t63e4t22bf1t6422t63c5t63a9t3a2et6469t647et649dt6477t3a6ct654ft656ct2300at65e3t66f8t6649",
  "t3b19t6691t3b08t3ae4t5192t5195t6700t669ct80adt43d9t6717t671bt6721t675et6753t233c3t3b49t67fa",
  "t6785t6852t6885t2346dt688et681ft6914t3b9dt6942t69a3t69eat6aa8t236a3t6adbt3c18t6b21t238a7t6b54",
  "t3c4et6b72t6b9fr2,6bbat23a8dt21d0bt23afat6c4et23cbct6cbft6ccdt6c67t6d16t6d3et6d77t6d41t6d69",
  "t6d78t6d85t23d1et6d34t6e2ft6e6et3d33t6ecbt6ec7t23ed1t6df9t6f6et23f5et23f8et6fc6t7039t701et701b",
  "t3d96t704at707dt7077t70adt20525t7145t24263t719ct243abt7228t7235t7250t24608t7280t7295t24735",
  "t24814t737at738bt3eact73a5t3eb8t3eb8t7447t745ct7471t7485t74cat3f1bt7524t24c36t753et24c92t7570",
  "t2219ft7610t24fa1t24fb8t25044t3ffct4008t76f4t250f3t250f2t25119t25133r2,771et771ft774at4039t778b",
  "t4046t4096t2541dt784et788ct78cct40e3t25626t7956t2569at256c5t798ft79ebt412ft7a40t7a4at7a4ft2597c",
  "t25aa7t25aa7t7aeet4202t25babt7bc6t7bc9t4227t25c80t7cd2t42a0t7ce8t7ce3t7d00t25f86t7d63t4301t7dc7",
  "t7e02t7e45t4334t26228t26247t4359t262d9t7f7at2633et7f95t7ffat8005t264dat26523t8060t265a8t8070",
  "t2335ft43d5t80b2t8103t440bt813et5ab5t267a7t267b5t23393t2339ct8201t8204t8f9et446bt8291t828bt829d",
  "t52b3t82b1t82b3t82bdt82e6t26b3ct82e5t831dt8363t83adt8323t83bdt83e7t8457t8353t83cat83cct83dc",
  "t26c36t26d6bt26cd5t452bt84f1t84f3t8516t273cat8564t26f2ct455dt4561t26fb1t270d2t456bt8650t865c",
  "t8667t8669t86a9t8688t870et86e2t8779t8728t876bt8786t45d7t87e1t8801t45f9t8860t8863t27667t88d7",
  "t88det4635t88fat34bbt278aet27966t46bet46c7t8aa0t8aedt8b8at8c55t27ca8t8cabt8cc1t8d1bt8d77t27f2f",
  "t20804t8dcbt8dbct8df0t208det8ed4t8f38t285d2t285edt9094t90f1t9111t2872et911bt9238r2,92d7t927c",
  "t93f9t9415t28bfat958bt4995t95b7t28d77t49e6t96c3t5db2t9723t29145t2921at4a6et4a76t97e0t2940at4ab2",
  "t29496t980bt980bt9829t295b6t98e2t4b33t9929t99a7t99c2t99fet4bcet29b30t9b12t9c40t9cfdt4ccet4ced",
  "t9d67t2a0cet4cf8t2a105t2a20et2a291t9ebbt4d56t9ef9t9efet9f05t9f0ft9f16t9f3bt2a600x5e2v134bx5",
  "v212axacc86if0x2fe10"]

inductive Mapping where
  | kept
  | refused
  | dropped
  | moved (start : Nat)
  | paired
  | text (cs : List Char)
  deriving DecidableEq, Repr

def runOfWord (w : Text.TableWord) : Text.CodeRun Mapping :=
  match w.letter, w.numbers with
  | 'v', n :: _ => ⟨n, .kept⟩
  | 'i', n :: _ => ⟨n, .dropped⟩
  | 'r', n :: start :: _ => ⟨n, .moved start⟩
  | 't', start :: _ => ⟨1, .moved start⟩
  | 'y', n :: _ => ⟨n, .paired⟩
  | 's', ns => ⟨1, .text (ns.map Char.ofNat)⟩
  | _, ns => ⟨ns.headD 0, .refused⟩

def runs : List (Text.CodeRun Mapping) := (Text.TableWord.read table).map runOfWord

/-- What becomes of a character; nothing when it is refused. -/
def image? (c : Char) : Option (List Char) :=
  match Text.runAt? runs c.toNat with
  | some (.kept, _) => some [c]
  | some (.dropped, _) => some []
  | some (.moved start, place) => some [Char.ofNat (start + place)]
  | some (.paired, place) => some [Char.ofNat (c.toNat + (place + 1) % 2)]
  | some (.text cs, _) => some cs
  | _ => none

def keeps (c : Char) : Bool := image? c = some [c]

def applyAll? (cs : List Char) : Option (List Char) :=
  (cs.mapM image?).map List.flatten

end MetricsGateway.DomainMapping
